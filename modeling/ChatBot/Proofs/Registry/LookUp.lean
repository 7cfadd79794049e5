/-
  ChatBot.Proofs.Registry.LookUp — the command that is looked up, and the one that is called.

  A command that acts on another, as one that disables it, looks it up by the name that is
  typed. A look-up takes the first node that has the name, archived or not; a text calls
  live commands only. Names are compared at registration among live commands, so the nodes
  before the owner that have its name too are archived. The first of these is what a
  look-up finds, and without one it finds the owner (`lookup_owner`).
-/
import Mathlib.Data.List.Find
import ChatBot.Proofs.Registry.Atomic
import ChatBot.Proofs.Registry.Reachable

namespace ChatBot

open Text

namespace Registry

variable {r : Registry} {before after : List Node} {node e : Node} {n typed : String}

/-- The word is a name or alias of the node, up to ASCII case. -/
def isCalled (typed : String) (node : Node) : Bool := node.command.info.names.any (alike · typed)

/-- An archived node of that name. -/
def isRetired (typed : String) (node : Node) : Bool := node.command.info.archived && isCalled typed node

theorem lookup_eq (r : Registry) (typed : String) : r.lookup typed = r.nodes.find? (isCalled typed) := rfl

theorem isCalled_iff : isCalled typed node = true ↔ ∃ m ∈ node.command.info.names, alike m typed = true :=
  List.any_eq_true

/-- No node has the id of another. -/
theorem Coherent.id_ne_before (hr : r.Coherent) (h : r.nodes = before ++ node :: after) (he : e ∈ before) :
    e.command.id ≠ node.command.id := by
  have hids := hr.nodup_ids
  rw [entries, List.map_flatMap, h] at hids
  have hapart := (List.pairwise_append.mp (List.nodup_flatMap.mp hids).2).2.2 e he node List.mem_cons_self
  intro heq
  exact hapart (List.mem_map_of_mem (mem_entries_self e)) (heq ▸ List.mem_map_of_mem (mem_entries_self node))

/-- The nodes before the owner of a name that have it too are archived. -/
theorem Coherent.isCalled_before (hr : r.Coherent) (h : r.nodes = before ++ node :: after)
    (hlive : node.command.info.archived = false) (hn : n ∈ node.command.info.names) (htyped : alike n typed = true)
    (he : e ∈ before) : isCalled typed e = isRetired typed e := by
  cases harchived : e.command.info.archived with
  | true => simp [isRetired, harchived]
  | false =>
    have hnode : node ∈ r.nodes := h ▸ List.mem_append_right before List.mem_cons_self
    have hmem : e ∈ r.nodes := h ▸ List.mem_append_left _ he
    have hnot : isCalled typed e = false := by
      by_contra hcalled
      obtain ⟨m, hm, hmtyped⟩ := isCalled_iff.mp (by simpa using hcalled)
      have hlower : lower m = lower n := lower_eq_of_alike (alike_trans hmtyped (alike_symm htyped))
      have heq : e = node :=
        hr.owner_unique (mem_direct_of_live hmem harchived) (mem_direct_of_live hnode hlive) hm hn hlower
      exact hr.id_ne_before h he (congrArg (·.command.id) heq)
    rw [isRetired, harchived, hnot]
    rfl

theorem Coherent.lookup_name (hr : r.Coherent) (h : r.nodes = before ++ node :: after)
    (hlive : node.command.info.archived = false) (hn : n ∈ node.command.info.names) (htyped : alike n typed = true) :
    r.lookup typed = (before.find? (isRetired typed)).or (some node) := by
  have hself : (node :: after).find? (isCalled typed) = some node :=
    List.find?_cons_of_pos (isCalled_iff.mpr ⟨n, hn, htyped⟩)
  have hbefore : before.find? (isCalled typed) = before.find? (isRetired typed) :=
    List.find?_congr fun e he => hr.isCalled_before h hlive hn htyped he
  rw [lookup_eq, h, List.find?_append, hself, hbefore]

/-- After any course of registrations, a text that begins with a name or alias of a live
    node calls this node or a child of it. A look-up of the name finds the first archived
    node before it that has the name too, and else the node: it acts on the command that is
    called exactly when no archived node before it has the name. -/
theorem lookup_owner (offered before after : List Node) (node : Node) (n typed : String)
    (h : (ofOffers offered).nodes = before ++ node :: after) (hlive : node.command.info.archived = false)
    (hn : n ∈ node.command.info.names) (htyped : alike n typed = true) :
    (∀ text, (wordsOf text).head? = some typed →
        ∃ found, (ofOffers offered).resolve text = .ok found ∧ IsWithin node found.node) ∧
      (ofOffers offered).lookup typed = (before.find? (isRetired typed)).or (some node) ∧
      (((ofOffers offered).lookup typed).map (·.command.id) = some node.command.id ↔
        ∀ e ∈ before, isRetired typed e = false) := by
  have hr := coherent_ofOffers offered
  have hnode : node ∈ (ofOffers offered).nodes := h ▸ List.mem_append_right before List.mem_cons_self
  have hlookup := hr.lookup_name h hlive hn htyped
  refine ⟨?_, hlookup, ?_⟩
  · intro text hfirst
    have hcalls := hr.resolve_of_name (mem_direct_of_live hnode hlive) hn htyped hfirst
    exact ⟨.below text node none, hcalls, isWithin_descend _ _ _⟩
  · rw [hlookup]
    cases hfind : before.find? (isRetired typed) with
    | none => exact iff_of_true rfl fun e he => Bool.eq_false_iff.mpr (List.find?_eq_none.mp hfind e he)
    | some e =>
      have he : e ∈ before := List.mem_of_find?_eq_some hfind
      have hretired := List.find?_some hfind
      refine iff_of_false (fun hid => hr.id_ne_before h he (Option.some.inj hid)) fun hnone => ?_
      cases hretired.symm.trans (hnone e he)

/-! ### A name that is used again -/

namespace Renewed

def retired : Command :=
  .simple { CommandInfo.make "stats-2019" "stats" with archived := true } (.ofRun fun _ => .done)

def stats : Command := .simple { CommandInfo.make "stats" "stats" with aliases := ["s"] } (.ofRun fun _ => .done)

def offered : List Node := [.leaf retired, .leaf stats]

theorem nodes_eq : (ofOffers offered).nodes = [.leaf retired] ++ .leaf stats :: [] := by
  have hretired : empty.Accepts (.leaf retired) := ⟨by decide, by decide, by decide, by decide, by decide⟩
  set_option maxRecDepth 2000 in
  have hstats : (empty.add (.leaf retired)).Accepts (.leaf stats) :=
    ⟨by decide, by with_unfolding_all decide, by decide, by decide, by decide⟩
  show ((empty.offer (.leaf retired)).offer (.leaf stats)).nodes = _
  rw [offer_accepted hretired, offer_accepted hstats]
  rfl

end Renewed

open Renewed in
/-- The name calls the new command and finds the old one; the alias does both with the new. -/
theorem lookup_owner_stats :
    (∃ found, (ofOffers offered).resolve "STATS me" = .ok found ∧ IsWithin (.leaf stats) found.node) ∧
      (ofOffers offered).lookup "STATS" = some (.leaf retired) ∧ (ofOffers offered).lookup "s" = some (.leaf stats) := by
  obtain ⟨hcalls, hname, -⟩ :=
    lookup_owner offered [.leaf retired] [] (.leaf stats) "stats" "STATS" nodes_eq rfl (by decide) (by decide)
  obtain ⟨-, halias, -⟩ :=
    lookup_owner offered [.leaf retired] [] (.leaf stats) "s" "s" nodes_eq rfl (by decide) (by decide)
  exact ⟨hcalls "STATS me" rfl, hname, halias⟩

open Renewed in
/-- So what is looked up need not be what is called. -/
theorem not_lookup_owner : ¬ ∀ (offered : List Node) (node : Node) (n : String), node ∈ (ofOffers offered).nodes →
    node.command.info.archived = false → n ∈ node.command.info.names → IsWord n →
    (ofOffers offered).lookup n = some node ∧
      ∃ found, (ofOffers offered).resolve n = .ok found ∧ IsWithin node found.node := by
  intro h
  have hmem : .leaf stats ∈ (ofOffers offered).nodes := nodes_eq ▸ .tail _ (.head _)
  have hfound := (h offered (.leaf stats) "stats" hmem rfl (by decide) (isWord_of_any (by decide) (by decide))).1
  rw [lookup_eq, nodes_eq] at hfound
  have hseed := congrArg (Option.map (·.command.info.seed)) hfound
  exact absurd hseed (by decide)

end Registry

end ChatBot
