/-
  ChatBot.Proofs.Registry.Listing — which commands a listing discloses.

  A command is hidden if it is secret, for developers only, or archived. The list of commands,
  the completions and the suggestions each leave hidden commands out. But a listed child is
  shown with its parent's name before its own, and for the child only the child's own flags are
  asked. So the list discloses a hidden command exactly when it has a child that is not hidden;
  completions and suggestions, which are about top-level commands, disclose none
  (`listings_disclose`).
-/
import Mathlib.Data.List.Nodup
import ChatBot.Proofs.Registry.History

namespace ChatBot

open Text

namespace Node

/-- The commands whose names make up the display name of a node. -/
def named (n : Node) : List Command := n.parent?.toList ++ [n.command]

theorem friendlyName_eq (n : Node) : n.friendlyName = " ".intercalate (n.named.map (·.info.displayName)) := by
  cases n <;> rfl

/-- A node names its own command, and a child its parent. -/
theorem mem_named {n : Node} {c : Command} : c ∈ n.named ↔ n.command = c ∨ ∃ child, n = .child child c := by
  cases n <;> simp [named, parent?, command, eq_comm, or_comm]

end Node

namespace Registry

variable {r : Registry} {n : Node} {c : Command} {typed s : String}

/-! ## The list -/

theorem mem_list : n ∈ r.list ↔ n ∈ r.entries ∧ n.command.info.isVisible = true := by
  rw [list, entries, ← List.filter_flatMap, List.mem_filter]

/-- The list names a hidden command for the sake of its visible children only. -/
theorem list_names_iff (hhidden : c.info.isVisible = false) :
    (∃ n ∈ r.list, c ∈ n.named) ↔ ∃ child, .child child c ∈ r.entries ∧ child.info.isVisible = true := by
  constructor
  · intro ⟨n, hn, hc⟩
    obtain ⟨hentry, hvisible⟩ := mem_list.mp hn
    rcases Node.mem_named.mp hc with rfl | ⟨child, rfl⟩
    · rw [hhidden] at hvisible
      cases hvisible
    · exact ⟨child, hentry, hvisible⟩
  · intro ⟨child, hentry, hvisible⟩
    exact ⟨.child child c, mem_list.mpr ⟨hentry, hvisible⟩, Node.mem_named.mpr (.inr ⟨child, rfl⟩)⟩

/-! ## Completions and suggestions -/

/-- A top-level command that is not hidden has the name, or the alias. -/
def ShownName (r : Registry) (s : String) : Prop :=
  ∃ n ∈ r.nodes, n.command.info.isVisible = true ∧ s ∈ n.command.info.names

theorem mem_visibleNames : s ∈ r.visibleNames ↔ r.ShownName s := by
  simp [visibleNames, ShownName, and_assoc]

theorem mem_completions :
    s ∈ r.completions typed ↔ r.ShownName s ∧ (lower typed).toList <+: (lower s).toList := by
  rw [completions, (List.mergeSort_perm _ _).mem_iff, List.mem_filter, mem_visibleNames, List.isPrefixOf_iff_prefix]

/-- The edits that lead from a text to a name, letters of either case being one. -/
def edits (typed name : String) : Nat := editDistance (lower typed).toList (lower name).toList

theorem nearer_none (typed name : String) :
    nearer typed none name = if edits typed name ≤ 2 then some (name, edits typed name) else none := by
  by_cases hnear : edits typed name ≤ 2 <;> rw [edits] at hnear <;> simp [nearer, edits, hnear]

theorem nearer_some (typed name : String) (best : String × Nat) : nearer typed (some best) name =
    if edits typed name ≤ 2 ∧ edits typed name < best.2 then some (name, edits typed name) else some best := by
  by_cases hless : edits typed name ≤ 2 ∧ edits typed name < best.2 <;> rw [edits] at hless <;>
    simp [nearer, edits, hless]

/-- The best of these names, with its distance, if one is near enough. -/
inductive Best (typed : String) (names : List String) : Option (String × Nat) → Prop
  | far : (∀ m ∈ names, 2 < edits typed m) → Best typed names none
  | near {s : String} : s ∈ names → edits typed s ≤ 2 → (∀ m ∈ names, edits typed s ≤ edits typed m) →
    Best typed names (some (s, edits typed s))

/-- One more name is looked at. -/
theorem Best.nearer {names : List String} {best : Option (String × Nat)} (h : Best typed names best) (name : String) :
    Best typed (names ++ [name]) (nearer typed best name) := by
  have hname : name ∈ names ++ [name] := List.mem_append_right _ (List.mem_singleton_self name)
  cases h with
  | far hfar =>
    rw [nearer_none]
    by_cases hnear : edits typed name ≤ 2
    · rw [if_pos hnear]
      refine .near hname hnear (List.forall_mem_append.mpr ⟨fun m hm => ?_, by simp⟩)
      have hm := hfar m hm
      omega
    · rw [if_neg hnear]
      exact .far (List.forall_mem_append.mpr ⟨hfar, by simpa using hnear⟩)
  | @near s hs hnear hleast =>
    rw [nearer_some]
    by_cases hless : edits typed name ≤ 2 ∧ edits typed name < edits typed s
    · rw [if_pos hless]
      refine .near hname hless.1 (List.forall_mem_append.mpr ⟨fun m hm => ?_, by simp⟩)
      have hm := hleast m hm
      omega
    · rw [if_neg hless]
      refine .near (List.mem_append_left _ hs) hnear (List.forall_mem_append.mpr ⟨hleast, fun m hm => ?_⟩)
      obtain rfl := List.mem_singleton.mp hm
      omega

theorem Best.foldl {seen : List String} {best : Option (String × Nat)} (h : Best typed seen best)
    (names : List String) : Best typed (seen ++ names) (names.foldl (Registry.nearer typed) best) := by
  induction names generalizing seen best with
  | nil => simpa using h
  | cons name names ih =>
    rw [List.foldl_cons, List.append_cons]
    exact ih (h.nearer name)

/-- A suggestion is a name that is shown, and none that is shown is nearer. -/
theorem suggest_eq_some (h : r.suggest typed = some s) :
    r.ShownName s ∧ edits typed s ≤ 2 ∧ ∀ m, r.ShownName m → edits typed s ≤ edits typed m := by
  have hbest : Best typed r.visibleNames (r.visibleNames.foldl (nearer typed) none) := by
    have hnone : Best typed [] none := .far nofun
    exact hnone.foldl r.visibleNames
  obtain ⟨⟨s', distance⟩, hfold, rfl⟩ := Option.map_eq_some_iff.mp h
  rw [hfold] at hbest
  cases hbest with
  | near hs hnear hleast =>
    exact ⟨mem_visibleNames.mp hs, hnear, fun m hm => hleast m (mem_visibleNames.mpr hm)⟩

/-! ## What is disclosed -/

/-- The list holds the registered commands that are not hidden, and names a hidden one exactly
    when a child of it is not hidden. Whatever is completed or suggested is a name of a
    command that is not hidden. -/
theorem listings_disclose (r : Registry) :
    (∀ n, n ∈ r.list ↔ n ∈ r.entries ∧ n.command.info.isVisible = true) ∧
      (∀ n : Node, n.friendlyName = " ".intercalate (n.named.map (·.info.displayName))) ∧
      (∀ c : Command, c.info.isVisible = false →
        ((∃ n ∈ r.list, c ∈ n.named) ↔ ∃ child, .child child c ∈ r.entries ∧ child.info.isVisible = true)) ∧
      (∀ typed s, s ∈ r.completions typed ↔ r.ShownName s ∧ (lower typed).toList <+: (lower s).toList) ∧
      ∀ typed s, r.suggest typed = some s →
        r.ShownName s ∧ edits typed s ≤ 2 ∧ ∀ m, r.ShownName m → edits typed s ≤ edits typed m :=
  ⟨fun _ => mem_list, Node.friendlyName_eq, fun _ => list_names_iff, fun _ _ => mem_completions,
    fun _ _ => suggest_eq_some⟩

/-! ### A secret parent with a child that is not secret -/

namespace Vault

def opening : Command := .simple (.make "vault-open" "open") (.ofRun fun ctx => .say ctx "opened")

def vault : Command :=
  .simple { CommandInfo.make "vault" "vault" with secret := true } (.ofRun fun ctx => .say ctx "a vault")

def offered : List Node := [.parent ⟨vault, [opening], none, [], none⟩]

theorem registered : ofOffers offered = empty.add (.parent ⟨vault, [opening], none, [], none⟩) := by
  set_option maxRecDepth 2000 in
  have hvault : empty.Accepts (.parent ⟨vault, [opening], none, [], none⟩) :=
    ⟨by decide, by decide, by with_unfolding_all decide, by decide, by decide⟩
  exact offer_accepted hvault

theorem mem_list_opening : .child opening vault ∈ (ofOffers offered).list := by
  rw [registered]
  exact mem_list.mpr ⟨.tail _ (.head _), rfl⟩

end Vault

open Vault in
/-- It is in no completion, and named by its child in the list. -/
theorem listings_disclose_vault :
    vault.info.isVisible = false ∧ (∃ n ∈ (ofOffers offered).list, vault ∈ n.named ∧ n.friendlyName = "vault open") ∧
      "vault" ∉ (ofOffers offered).completions "v" ∧ (ofOffers offered).suggest "vault" ≠ some "vault" := by
  obtain ⟨-, hname, -, hcompletions, hsuggest⟩ := listings_disclose (ofOffers offered)
  have hnone : ¬ (ofOffers offered).ShownName "vault" := by
    rw [registered]
    rintro ⟨n, hn, hvisible, -⟩
    obtain rfl := List.mem_singleton.mp hn
    cases hvisible
  refine ⟨rfl, ⟨_, mem_list_opening, .head _, ?_⟩, ?_, ?_⟩
  · rw [hname]
    rfl
  · intro h
    exact hnone ((hcompletions "v" "vault").mp h).1
  · intro h
    exact hnone (hsuggest "vault" "vault" h).1

open Vault in
/-- So a listing can disclose a secret command. -/
theorem not_listings_hide : ¬ ∀ (offered : List Node), ∀ n ∈ (ofOffers offered).list, ∀ c ∈ n.named,
    c.info.isVisible = true := by
  intro h
  cases h offered _ mem_list_opening vault (.head _)

end Registry

end ChatBot
