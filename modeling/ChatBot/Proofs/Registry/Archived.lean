/-
  ChatBot.Proofs.Registry.Archived — how an archived command can still be called.

  Names, aliases, variations and abbreviations find only commands that are not archived,
  at the first word and below a parent. The default child of a parent is looked up by name
  without that restriction. So an archived command is called in one way: as the default
  child of a parent whose other children the second word does not name
  (`resolve_archived_iff`). Under its id it is always found.
-/
import ChatBot.Proofs.Registry.Names

namespace ChatBot

open Text

namespace Registry

variable {r : Registry} {text : String}

theorem archived_of_matchFirst {token : String} {node : Node} {v : Option Variation}
    (h : r.matchFirst token = some (node, v)) : node.command.info.archived = false := by
  obtain ⟨_, -, hd⟩ := List.mem_flatMap.mp (mem_direct_of_matchFirst h)
  exact Node.archived_of_mem_direct hd

theorem archived_of_matchChild {p : ParentCommand} {token : String} {c : Command} {v : Option Variation}
    (h : p.matchChild token = some (c, v)) : c.info.archived = false := by
  simpa using (List.mem_filter.mp (mem_live_of_matchChild h)).2

/-- The text calls a parent, its second word names no child, and the default child is
    archived. -/
structure FallsTo (r : Registry) (text : String) (p : ParentCommand) (c : Command) : Prop where
  called : ∃ first v, (wordsOf text).head? = some first ∧ r.matchFirst first = some (.parent p, v)
  unnamed : (wordsOf text).tail.head?.bind p.matchChild = none
  isDefault : p.defaultChild.bind p.findChild = some c
  archived : c.info.archived = true

/-- What is found below a node that is not archived is archived only as a default child. -/
theorem archived_descend_iff {second : Option String} {node d : Node} {v : Option Variation}
    (hnode : node.command.info.archived = false) :
    ((descend second node v).1 = d ∧ d.command.info.archived = true) ↔
      ∃ p c, node = .parent p ∧ second.bind p.matchChild = none ∧ p.defaultChild.bind p.findChild = some c ∧
        c.info.archived = true ∧ d = .child c p.command := by
  have hlive : ∀ e : Node, e.command.info.archived = false → ¬ (e = d ∧ d.command.info.archived = true) := by
    rintro e he ⟨rfl, harchived⟩
    exact absurd (he.symm.trans harchived) (by decide)
  cases node with
  | leaf c => exact iff_of_false (hlive _ hnode) (by rintro ⟨p, c, hp, -⟩; cases hp)
  | child c p => exact iff_of_false (hlive _ hnode) (by rintro ⟨p, c, hp, -⟩; cases hp)
  | parent p =>
    rw [descend]
    cases hmatch : second.bind p.matchChild with
    | some found =>
      obtain ⟨token, -, hc⟩ := Option.bind_eq_some_iff.mp hmatch
      refine iff_of_false (hlive _ (archived_of_matchChild hc)) ?_
      rintro ⟨_, c, hp, hnone, -⟩
      cases hp
      cases hmatch.symm.trans hnone
    | none =>
      cases hdefault : p.defaultChild.bind p.findChild with
      | some c =>
        constructor
        · rintro ⟨rfl, harchived⟩
          exact ⟨p, c, rfl, hmatch, hdefault, harchived, rfl⟩
        · rintro ⟨_, c', hp, -, hc', harchived, rfl⟩
          cases hp
          obtain rfl := Option.some.inj (hdefault.symm.trans hc')
          exact ⟨rfl, harchived⟩
      | none =>
        refine iff_of_false (hlive _ hnode) ?_
        rintro ⟨_, c, hp, -, hsome, -⟩
        cases hp
        cases hdefault.symm.trans hsome

/-- After any course of registrations, a text calls an archived command exactly when it is
    the default child of a parent that the text calls without naming another child. Under
    its id every registered command is found, archived or not. -/
theorem resolve_archived_iff (offered : List Node) (text : String) :
    (∀ d : Node, (∃ found, (ofOffers offered).resolve text = .ok found ∧ found.node = d ∧
        d.command.info.archived = true) ↔
      ∃ p c, (ofOffers offered).FallsTo text p c ∧ d = .child c p.command) ∧
      ∀ e ∈ (ofOffers offered).entries, (ofOffers offered).findById e.command.id = some e := by
  refine ⟨fun d => ?_, fun e he => (coherent_ofOffers offered).findById he⟩
  constructor
  · rintro ⟨found, hfound, hd⟩
    obtain ⟨first, node, v, hfirst, hmatch, rfl⟩ := resolve_eq_ok.mp hfound
    obtain ⟨p, c, rfl, hunnamed, hdefault, harchived, hchild⟩ :=
      (archived_descend_iff (archived_of_matchFirst hmatch)).mp hd
    exact ⟨p, c, ⟨⟨first, v, hfirst, hmatch⟩, hunnamed, hdefault, harchived⟩, hchild⟩
  · rintro ⟨p, c, ⟨⟨first, v, hfirst, hmatch⟩, hunnamed, hdefault, harchived⟩, hchild⟩
    refine ⟨.below text (.parent p) v, resolve_eq_ok.mpr ⟨first, .parent p, v, hfirst, hmatch, rfl⟩, ?_⟩
    exact (archived_descend_iff (archived_of_matchFirst hmatch)).mpr
      ⟨p, c, rfl, hunnamed, hdefault, harchived, hchild⟩

end Registry

/-! ### An archived default child -/

namespace Retired

def summary : Command :=
  .simple { CommandInfo.make "summary" "summary" with archived := true } (.ofRun fun _ => .done)

def stats : ParentCommand :=
  ⟨.simple (.make "stats" "stats") (.ofRun fun _ => .done), [summary], some "summary", [], none⟩

def offered : List Node := [.parent stats]

theorem registered : Registry.ofOffers offered = Registry.empty.add (.parent stats) := by
  set_option maxRecDepth 2000 in
  exact Registry.offer_accepted ⟨by decide, by decide, by with_unfolding_all decide, by decide, by decide⟩

theorem fallsTo_summary : (Registry.ofOffers offered).FallsTo "stats" stats summary :=
  ⟨⟨"stats", none, rfl, by rw [registered]; rfl⟩, rfl, rfl, rfl⟩

theorem resolved : (Registry.ofOffers offered).resolve "stats" = .ok (.below "stats" (.parent stats) none) :=
  Registry.resolve_eq_ok.mpr ⟨"stats", .parent stats, none, rfl, by rw [registered]; rfl, rfl⟩

end Retired

open Retired in
/-- The parent calls it; and it is found under its id. -/
theorem Registry.resolve_archived_summary :
    (∃ found, (ofOffers offered).resolve "stats" = .ok found ∧ found.node = .child summary stats.command ∧
        summary.info.archived = true) ∧
      (ofOffers offered).findById summary.id = some (.child summary stats.command) := by
  obtain ⟨hcalls, hfind⟩ := resolve_archived_iff offered "stats"
  refine ⟨(hcalls (.child summary stats.command)).mpr ⟨stats, summary, fallsTo_summary, rfl⟩, ?_⟩
  exact hfind (.child summary stats.command) (by rw [registered]; exact .tail _ (.head _))

open Retired in
/-- So a command can be called although it is archived. -/
theorem Registry.not_resolve_live : ¬ ∀ (offered : List Node) (text : String) (found : Resolution),
    (ofOffers offered).resolve text = .ok found → found.node.command.info.archived = false := by
  intro h
  have hlive : summary.info.archived = false := h offered "stats" _ resolved
  exact absurd hlive (by decide)

end ChatBot
