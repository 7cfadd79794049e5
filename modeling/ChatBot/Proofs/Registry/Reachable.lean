/-
  ChatBot.Proofs.Registry.Reachable — the texts by which a registered command is called.

  A command that is no parent is called by its own name, and a child by its parent's name
  and its own, with one exception (`resolve_own_name`). A registration compares the names
  under which commands are called directly; the names of siblings that are called under
  their parent it does not compare. When two siblings have one name, up to ASCII case, the
  first live one answers, and the other is not called by its name.
-/
import ChatBot.Proofs.Registry.Names

namespace ChatBot

open Text

/-! ## Siblings -/

namespace ParentCommand

variable {p : ParentCommand} {before after : List Command} {c d : Command}

theorem matchChild_of_name {token : String} (h : p.live.find? (·.info.hasName token) = some c) :
    p.matchChild token = some (c, none) := by
  rw [matchChild, h]

/-- A live child is found by its name, or a live sibling of that name before it. -/
theorem find?_own_name (hc : p.children = before ++ c :: after) (hlive : c.info.archived = false) :
    ∃ d, p.live.find? (·.info.hasName c.name) = some d ∧
      ((∀ s ∈ before, s.info.archived = false → alike s.name c.name = false) ∧ d = c ∨
        d ∈ before ∧ d.info.archived = false ∧ alike d.name c.name = true) := by
  have hsplit : p.live = before.filter (!·.info.archived) ++ c :: after.filter (!·.info.archived) := by
    rw [live, hc, List.filter_append, List.filter_cons_of_pos (by simp [hlive])]
  have hself : (c :: after.filter (!·.info.archived)).find? (·.info.hasName c.name) = some c :=
    List.find?_cons_of_pos (alike_refl c.name)
  rw [hsplit, List.find?_append, hself]
  cases hfind : (before.filter (!·.info.archived)).find? (·.info.hasName c.name) with
  | none =>
    refine ⟨c, rfl, .inl ⟨fun s hs hslive => ?_, rfl⟩⟩
    have hnot := List.find?_eq_none.mp hfind s (List.mem_filter.mpr ⟨hs, by simp [hslive]⟩)
    exact Bool.eq_false_iff.mpr hnot
  | some d =>
    obtain ⟨hd, hdlive⟩ := List.mem_filter.mp (List.mem_of_find?_eq_some hfind)
    have hname := List.find?_some hfind
    exact ⟨d, rfl, .inr ⟨hd, by simpa using hdlive, hname⟩⟩

end ParentCommand

/-! ## Calling a command by its own name -/

namespace Registry

variable {r : Registry} {node : Node} {p : ParentCommand} {before after : List Command} {c d : Command}

theorem mem_direct_of_live (h : node ∈ r.nodes) (hlive : node.command.info.archived = false) : node ∈ r.direct := by
  refine List.mem_flatMap.mpr ⟨node, h, List.mem_append_left _ ?_⟩
  rw [if_neg (by simp [hlive])]
  exact List.mem_singleton_self node

/-- A text that begins with the name of a live node calls that node, or a child of it. -/
theorem Coherent.resolve_first (hr : r.Coherent) (h : node ∈ r.nodes) (hlive : node.command.info.archived = false)
    {text : String} {rest : List String} (hwords : wordsOf text = node.command.name :: rest) :
    r.resolve text = .ok (.below text node none) :=
  hr.resolve_of_name (mem_direct_of_live h hlive) List.mem_cons_self (alike_refl node.command.name)
    (by rw [hwords]; rfl)

/-- Children of one parent have different ids. -/
theorem Coherent.id_ne_sibling (hr : r.Coherent) (hp : .parent p ∈ r.nodes)
    (hc : p.children = before ++ c :: after) (hd : d ∈ before) : d.id ≠ c.id := by
  have hnodes := hr.nodup_ids
  rw [entries, List.map_flatMap] at hnodes
  have hentries : ((Node.parent p).entries.map (·.command.id)).Nodup := (List.nodup_flatMap.mp hnodes).1 _ hp
  have hids : (Node.parent p).entries.map (·.command.id) =
      p.command.id :: (before.map Command.id ++ c.id :: after.map Command.id) := by
    rw [Node.entries, hc, List.map_cons, List.map_map, List.map_append, List.map_cons]
    rfl
  rw [hids, List.nodup_cons] at hentries
  obtain ⟨-, -, hapart⟩ := List.nodup_append.mp hentries.2
  exact hapart d.id (List.mem_map_of_mem hd) c.id List.mem_cons_self

/-- After any course of registrations, a live command that is no parent is called by its
    own name. The name of a live parent and that of a live child of it call a command, and
    that is the child exactly when no live sibling before it has the same name. -/
theorem resolve_own_name (offered : List Node) :
    (∀ node ∈ (ofOffers offered).nodes, (∀ p, node ≠ .parent p) → node.command.info.archived = false →
      IsWord node.command.name →
      ∃ found, (ofOffers offered).resolve node.command.name = .ok found ∧ found.node = node) ∧
    ∀ p before c after, .parent p ∈ (ofOffers offered).nodes → p.children = before ++ c :: after →
      p.command.info.archived = false → c.info.archived = false → IsWord p.command.name → IsWord c.name →
      ∃ found, (ofOffers offered).resolve (p.command.name ++ " " ++ c.name) = .ok found ∧
        (found.node.command.id = c.id ↔ ∀ s ∈ before, s.info.archived = false → alike s.name c.name = false) := by
  have hr := coherent_ofOffers offered
  constructor
  · intro node hnode hleaf hlive hword
    refine ⟨_, hr.resolve_first hnode hlive hword.wordsOf_self, ?_⟩
    cases node with
    | leaf c => rfl
    | child c parent => rfl
    | parent p => exact absurd rfl (hleaf p)
  · intro p before c after hp hc hplive hlive hpword hword
    have hwords : wordsOf (p.command.name ++ " " ++ c.name) = [p.command.name, c.name] := hpword.wordsOf_pair hword
    obtain ⟨d, hfind, hd⟩ := p.find?_own_name hc hlive
    refine ⟨_, hr.resolve_first hp hplive hwords, ?_⟩
    have hnode : (Resolution.below (p.command.name ++ " " ++ c.name) (.parent p) none).node = .child d p.command := by
      simp only [Resolution.below, hwords, List.tail_cons, List.head?_cons, descend, Option.bind_some,
        ParentCommand.matchChild_of_name hfind]
    rw [hnode]
    rcases hd with ⟨hfirst, rfl⟩ | ⟨hbefore, hdlive, hname⟩
    · exact iff_of_true rfl hfirst
    · refine iff_of_false (hr.id_ne_sibling hp hc hbefore) fun h => ?_
      rw [h d hbefore hdlive] at hname
      cases hname

/-! ### Siblings of one name -/

namespace Namesakes

def retired : Command :=
  .simple { CommandInfo.make "import-2019" "import" with archived := true } (.ofRun fun _ => .done)

/-- An alias of it is the name of the next. -/
def sync : Command :=
  .simple { CommandInfo.make "sync" "sync" with aliases := ["import"] } (.ofRun fun _ => .done)

def importRatings : Command := .simple (.make "import" "import") (.ofRun fun _ => .done)

def importAlbums : Command := .simple (.make "import-albums" "Import") (.ofRun fun _ => .done)

def rym : ParentCommand :=
  ⟨.simple (.make "rym" "rym") (.ofRun fun _ => .done), [retired, sync, importRatings, importAlbums], none, [], none⟩

def ping : Command := .simple (.make "ping" "ping") (.ofRun fun _ => .done)

def offered : List Node := [.leaf ping, .parent rym]

theorem nodes_eq : (ofOffers offered).nodes = offered := by
  have hping : empty.Accepts (.leaf ping) := ⟨by decide, by decide, by decide, by decide, by decide⟩
  set_option maxRecDepth 2000 in
  have hrym : (empty.add (.leaf ping)).Accepts (.parent rym) :=
    ⟨by decide, by with_unfolding_all decide, by with_unfolding_all decide, by decide, by decide⟩
  show ((empty.offer (.leaf ping)).offer (.parent rym)).nodes = offered
  rw [offer_accepted hping, offer_accepted hrym]
  rfl

theorem mem_rym : .parent rym ∈ (ofOffers offered).nodes := by
  rw [nodes_eq]
  exact List.mem_cons_of_mem _ List.mem_cons_self

end Namesakes

open Namesakes in
/-- A leaf is called by its name. Neither an archived namesake nor an alias is in the way of a
    child, but a live namesake is. -/
theorem resolve_own_name_import :
    (∃ found, (ofOffers offered).resolve "ping" = .ok found ∧ found.node = .leaf ping) ∧
      (∃ found, (ofOffers offered).resolve "rym import" = .ok found ∧ found.node.command.id = importRatings.id) ∧
      ∃ found, (ofOffers offered).resolve "rym Import" = .ok found ∧ found.node.command.id ≠ importAlbums.id := by
  obtain ⟨hleaf, hchild⟩ := resolve_own_name offered
  have hping : .leaf ping ∈ (ofOffers offered).nodes := by
    rw [nodes_eq]
    exact List.mem_cons_self
  refine ⟨hleaf (.leaf ping) hping (fun p h => by cases h) rfl (isWord_of_any (by decide) (by decide)), ?_, ?_⟩
  · obtain ⟨found, hfound, hiff⟩ := hchild rym [retired, sync] importRatings [importAlbums] mem_rym rfl rfl rfl
      (isWord_of_any (by decide) (by decide)) (isWord_of_any (by decide) (by decide))
    exact ⟨found, hfound, hiff.mpr (by decide)⟩
  · obtain ⟨found, hfound, hiff⟩ := hchild rym [retired, sync, importRatings] importAlbums [] mem_rym rfl rfl rfl
      (isWord_of_any (by decide) (by decide)) (isWord_of_any (by decide) (by decide))
    exact ⟨found, hfound, fun h => absurd (hiff.mp h) (by decide)⟩

open Namesakes in
/-- So not every live command is called by its name. -/
theorem not_resolve_own_name : ¬ ∀ (offered : List Node) (p : ParentCommand) (c : Command),
    .parent p ∈ (ofOffers offered).nodes → c ∈ p.children → p.command.info.archived = false →
      c.info.archived = false → IsWord p.command.name → IsWord c.name →
      ∃ found, (ofOffers offered).resolve (p.command.name ++ " " ++ c.name) = .ok found ∧
        found.node.command.id = c.id := by
  intro h
  have hmem : importAlbums ∈ rym.children :=
    List.mem_cons_of_mem _ (List.mem_cons_of_mem _ (List.mem_cons_of_mem _ List.mem_cons_self))
  obtain ⟨found, hfound, hid⟩ := h offered rym importAlbums mem_rym hmem rfl rfl
    (isWord_of_any (by decide) (by decide)) (isWord_of_any (by decide) (by decide))
  have hwords : wordsOf "rym Import" = ["rym", "Import"] := rfl
  have hfirst : (ofOffers offered).resolve "rym Import" = .ok (.below "rym Import" (.parent rym) none) :=
    (coherent_ofOffers offered).resolve_first mem_rym rfl hwords
  obtain rfl := Except.ok.inj (hfound.symm.trans hfirst)
  set_option maxRecDepth 2000 in
  exact absurd hid (by with_unfolding_all decide)

end Registry

end ChatBot
