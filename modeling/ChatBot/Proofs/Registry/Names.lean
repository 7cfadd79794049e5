/-
  ChatBot.Proofs.Registry.Names — whom a name calls.

  A command is called directly when a first word may select it: a node that is not
  archived, or a child of one that is called without its parent. The names of these are
  unique in lowercase, and words are compared in ASCII case only, which is narrower. So
  while names and aliases are tried, no command but the owner of a name answers to it,
  whatever else is registered (`resolve_owner`).
-/
import Mathlib.Data.List.Nodup
import Mathlib.Data.List.Pairwise
import ChatBot.Proofs.Registry.History
import ChatBot.Proofs.Text.Case
import ChatBot.Proofs.Text.Tokens

/-! ## The first that is found -/

namespace List

variable {α β γ : Type}

theorem findSome?_flatMap (l : List α) (g : α → List β) (f : β → Option γ) :
    (l.flatMap g).findSome? f = l.findSome? fun a => (g a).findSome? f := by
  induction l with
  | nil => rfl
  | cons a l ih =>
    rw [flatMap_cons, findSome?_append, findSome?_cons, ih]
    cases (g a).findSome? f <;> rfl

theorem findSome?_filter (l : List α) (p : α → Bool) (f : α → Option β) :
    (l.filter p).findSome? f = l.findSome? fun a => if p a then f a else none := by
  induction l with
  | nil => rfl
  | cons a l ih => cases hp : p a <;> simp [findSome?_cons, hp, ih]

/-- Nothing else in the list would have been found. -/
theorem findSome?_of_unique {l : List α} {f : α → Option β} {a : α} {b : β} (ha : a ∈ l) (hf : f a = some b)
    (h : ∀ x ∈ l, f x ≠ none → x = a) : l.findSome? f = some b := by
  cases hl : l.findSome? f with
  | none => rw [findSome?_eq_none_iff.mp hl a ha] at hf; cases hf
  | some c =>
    obtain ⟨x, hx, hc⟩ := exists_of_findSome?_eq_some hl
    rw [← hf, ← h x hx (by simp [hc]), hc]

end List

namespace ChatBot

open Text

/-! ## Commands that are called directly -/

/-- The node and its children, as far as a first word may select them. -/
def Node.direct (node : Node) : List Node :=
  (if node.command.info.archived then [] else [node]) ++
    match node with
    | .parent p => (p.children.filter fun c => p.isDirect c && !c.info.archived).map fun c => .child c p.command
    | _ => []

theorem Node.archived_of_mem_direct {node d : Node} (h : d ∈ node.direct) : d.command.info.archived = false := by
  rcases List.mem_append.mp h with h | h
  · split at h
    · cases h
    · rename_i hlive
      obtain rfl := List.mem_singleton.mp h
      simpa using hlive
  · split at h
    · obtain ⟨c, hc, rfl⟩ := List.mem_map.mp h
      have hc := (List.mem_filter.mp hc).2
      simp only [Bool.and_eq_true, Bool.not_eq_true'] at hc
      exact hc.2
    · cases h

namespace Registry

variable {r r' : Registry} {d owner : Node} {n typed text : String} {stage : Stage}

/-- Every command that is called directly. -/
def direct (r : Registry) : List Node := r.nodes.flatMap Node.direct

theorem direct_add (r : Registry) (node : Node) : (r.add node).direct = r.direct ++ node.direct := by
  rw [direct, add, List.flatMap_append, List.flatMap_singleton]
  rfl

theorem mem_direct_offer (h : owner ∈ r.direct) (node : Node) : owner ∈ (r.offer node).direct := by
  unfold offer
  split
  · rename_i hr'
    rw [(register_eq_ok.mp hr').2, direct_add]
    exact List.mem_append_left _ h
  · exact h

theorem directNames_eq (node : Node) : directNames node = node.direct.flatMap (·.command.info.names) := by
  have hown : (if node.command.info.archived then [] else node.command.info.names) =
      (if node.command.info.archived then [] else [node]).flatMap (·.command.info.names) := by
    split <;> simp
  unfold directNames Node.direct
  rw [List.flatMap_append, hown]
  cases node with
  | parent p => simp only [List.flatMap_map, Node.command]
  | leaf c => rfl
  | child c p => rfl

/-- What a word finds at a stage when it finds this command. -/
def pick (stage : Stage) (token : String) (d : Node) : Option (Node × Option Variation) :=
  (answers stage d.command.info token).map fun v => (d, v)

theorem matchNode_eq (stage : Stage) (token : String) (node : Node) :
    matchNode stage token node = node.direct.findSome? (pick stage token) := by
  have hown : (if node.command.info.archived then none else pick stage token node) =
      (if node.command.info.archived then [] else [node]).findSome? (pick stage token) := by
    split <;> simp
  unfold Node.direct
  rw [List.findSome?_append, ← hown]
  cases node with
  | parent p =>
    -- a child is passed over when it is archived or not direct, here by the filter
    have hchildren : (p.children.findSome? fun c => if c.info.archived || !p.isDirect c then none
        else pick stage token (.child c p.command)) =
        ((p.children.filter fun c => p.isDirect c && !c.info.archived).map fun c => Node.child c p.command).findSome?
          (pick stage token) := by
      rw [List.findSome?_map, List.findSome?_filter]
      congr 1
      funext c
      cases p.isDirect c <;> cases c.info.archived <;> rfl
    rw [← hchildren]
    rfl
  | leaf c => rfl
  | child c p => rfl

theorem matchFirst_eq (r : Registry) (token : String) : r.matchFirst token =
    [Stage.name, .alias, .variation].findSome? fun stage => r.direct.findSome? (pick stage token) := by
  simp only [matchFirst, direct, List.findSome?_flatMap, ← matchNode_eq]

theorem mem_direct_of_matchFirst {v : Option Variation} (h : r.matchFirst typed = some (d, v)) : d ∈ r.direct := by
  rw [matchFirst_eq] at h
  obtain ⟨stage, -, h⟩ := List.exists_of_findSome?_eq_some h
  obtain ⟨x, hx, h⟩ := List.exists_of_findSome?_eq_some h
  obtain ⟨v', -, he⟩ := Option.map_eq_some_iff.mp h
  rwa [← (Prod.mk.inj he).1]

/-! ## What a text calls -/

/-- What a text calls whose first word finds a node. -/
def Resolution.below (text : String) (node : Node) (variation : Option Variation) : Resolution :=
  let (node, count, variation) := descend (wordsOf text).tail.head? node variation
  let consumed := (wordsOf text).take count
  ⟨node, consumed, variation, .ofText text count (variationMarks variation consumed)⟩

theorem resolve_eq_ok {found : Resolution} : r.resolve text = .ok found ↔ ∃ first node variation,
    (wordsOf text).head? = some first ∧ r.matchFirst first = some (node, variation) ∧
      found = .below text node variation := by
  rw [resolve, texts_tokenize]
  cases hwords : wordsOf text with
  | nil => simp
  | cons first rest =>
    cases hmatch : r.matchFirst first with
    | none => simp [hmatch]
    | some found' =>
      obtain ⟨node, variation⟩ := found'
      simp only [List.head?_cons, Option.some.injEq, exists_and_left, exists_eq_left', hmatch, Prod.mk.injEq,
        Except.ok.injEq]
      constructor
      · rintro rfl
        exact ⟨node, variation, ⟨rfl, rfl⟩, by simp [Resolution.below, hwords]⟩
      · rintro ⟨_, _, ⟨rfl, rfl⟩, rfl⟩
        simp [Resolution.below, hwords]

/-! ## Owners -/

/-- While names and aliases are tried, a command answers to its own names only. -/
theorem exists_name_of_answers {info : CommandInfo} {token : String} (hstage : stage ≠ .variation)
    (h : answers stage info token ≠ none) : ∃ m ∈ info.names, alike m token = true := by
  cases stage with
  | name =>
    refine ⟨info.name, List.mem_cons_self, ?_⟩
    by_contra hname
    exact h (by simp [answers, CommandInfo.hasName, hname])
  | «alias» =>
    by_contra hname
    refine h (if_neg fun halias => hname ?_)
    obtain ⟨m, hm, hm'⟩ := List.any_eq_true.mp halias
    exact ⟨m, List.mem_cons_of_mem _ hm, hm'⟩
  | variation => exact absurd rfl hstage

theorem answers_of_name {info : CommandInfo} {token : String} (hn : n ∈ info.names) (h : alike n token = true) :
    answers .name info token = some none ∨ answers .name info token = none ∧ answers .alias info token = some none := by
  by_cases hname : info.hasName token = true
  · exact .inl (if_pos hname)
  · refine .inr ⟨if_neg hname, if_pos ?_⟩
    rcases List.mem_cons.mp hn with rfl | hn
    · exact absurd h hname
    · exact List.any_eq_true.mpr ⟨n, hn, h⟩

/-- The names under which commands are called directly differ in lowercase. -/
theorem Coherent.nodup_direct (hr : r.Coherent) : (r.direct.flatMap fun d => d.command.info.names.map lower).Nodup := by
  have hnames : r.names = r.direct.flatMap fun d => d.command.info.names.map lower := by
    rw [hr.names, direct, List.flatMap_assoc, List.map_flatMap]
    simp only [directNames_eq, List.map_flatMap]
  exact hnames ▸ hr.names_nodup

/-- Two commands that are called directly share no name, in lowercase. -/
theorem Coherent.owner_unique (hr : r.Coherent) (hd : d ∈ r.direct) (ho : owner ∈ r.direct) {m : String}
    (hm : m ∈ d.command.info.names) (hn : n ∈ owner.command.info.names) (h : lower m = lower n) : d = owner := by
  have hdisjoint := (List.nodup_flatMap.mp hr.nodup_direct).2
  by_contra hne
  have hsymm : Std.Symm (Function.onFun List.Disjoint fun d : Node => d.command.info.names.map lower) :=
    ⟨fun _ _ h => List.disjoint_symm h⟩
  exact hdisjoint.forall hd ho hne (List.mem_map_of_mem hm) (h ▸ List.mem_map_of_mem hn)

/-- A command that is called directly has one name for a lowercase. -/
theorem Coherent.name_unique (hr : r.Coherent) (hd : d ∈ r.direct) {m : String} (hm : m ∈ d.command.info.names)
    (hn : n ∈ d.command.info.names) (h : lower m = lower n) : m = n :=
  List.inj_on_of_nodup_map ((List.nodup_flatMap.mp hr.nodup_direct).1 d hd) hm hn h

/-- While names and aliases are tried, a word finds nobody but the owner of the name that has
    its lowercase, and this one by that name. -/
theorem Coherent.owner_of_pick (hr : r.Coherent) (ho : owner ∈ r.direct) (hn : n ∈ owner.command.info.names)
    (h : lower n = lower typed) (hstage : stage ≠ .variation) (hd : d ∈ r.direct)
    (hpick : pick stage typed d ≠ none) : d = owner ∧ alike n typed = true := by
  have hanswers : answers stage d.command.info typed ≠ none := fun hnone => hpick (by rw [pick, hnone]; rfl)
  obtain ⟨m, hm, hmtyped⟩ := exists_name_of_answers hstage hanswers
  have hmn : lower m = lower n := (lower_eq_of_alike hmtyped).trans h.symm
  obtain rfl := hr.owner_unique hd ho hm hn hmn
  obtain rfl := hr.name_unique hd hm hn hmn
  exact ⟨rfl, hmtyped⟩

theorem Coherent.matchFirst_owner (hr : r.Coherent) (ho : owner ∈ r.direct) (hn : n ∈ owner.command.info.names)
    (h : alike n typed = true) : r.matchFirst typed = some (owner, none) := by
  have honly : ∀ stage ≠ Stage.variation, ∀ d ∈ r.direct, pick stage typed d ≠ none → d = owner :=
    fun stage hstage d hd hpick => (hr.owner_of_pick ho hn (lower_eq_of_alike h) hstage hd hpick).1
  have hfound : ∀ stage ≠ Stage.variation, answers stage owner.command.info typed = some none →
      r.direct.findSome? (pick stage typed) = some (owner, none) :=
    fun stage hstage hanswers => List.findSome?_of_unique ho (by rw [pick, hanswers]; rfl) (honly stage hstage)
  rw [matchFirst_eq, List.findSome?_cons]
  rcases answers_of_name hn h with hname | ⟨hname, halias⟩
  · rw [hfound .name (by decide) hname]
  · -- by name the word finds nobody, for it could only be the owner
    have hnobody : r.direct.findSome? (pick .name typed) = none := by
      refine List.findSome?_eq_none_iff.mpr fun d hd => ?_
      by_contra hpick
      rw [honly .name (by decide) d hd hpick, pick, hname] at hpick
      exact hpick rfl
    rw [hnobody, List.findSome?_cons, hfound .alias (by decide) halias]

/-- A text whose first word is alike to a name calls its owner, or what is below it. -/
theorem Coherent.resolve_of_name (hr : r.Coherent) (ho : owner ∈ r.direct) (hn : n ∈ owner.command.info.names)
    (h : alike n typed = true) (hfirst : (wordsOf text).head? = some typed) :
    r.resolve text = .ok (.below text owner none) :=
  resolve_eq_ok.mpr ⟨typed, owner, none, hfirst, hr.matchFirst_owner ho hn h, rfl⟩

/-- The node itself, or a child of it. -/
def IsWithin (owner node : Node) : Prop :=
  node = owner ∨ ∃ p, owner = .parent p ∧ ∃ c ∈ p.children, node = .child c p.command

theorem mem_live_of_matchChild {p : ParentCommand} {token : String} {c : Command} {v : Option Variation}
    (h : p.matchChild token = some (c, v)) : c ∈ p.live := by
  unfold ParentCommand.matchChild at h
  split at h
  · rename_i hfind
    cases h
    exact List.mem_of_find?_eq_some hfind
  split at h
  · rename_i hfind
    cases h
    exact List.mem_of_find?_eq_some hfind
  split at h
  · rename_i hfind
    cases h
    obtain ⟨c', hc', h'⟩ := List.exists_of_findSome?_eq_some hfind
    obtain ⟨v', -, he⟩ := Option.map_eq_some_iff.mp h'
    rwa [← (Prod.mk.inj he).1]
  · obtain ⟨c', hc', he⟩ := Option.map_eq_some_iff.mp h
    obtain rfl := (Prod.mk.inj he).1
    unfold ParentCommand.abbreviated at hc'
    split at hc'
    · cases hc'
    split at hc'
    · cases hc'
    split at hc'
    · rename_i honly
      cases hc'
      exact (List.mem_filter.mp (honly ▸ List.mem_singleton_self c')).1
    · cases hc'

theorem isWithin_descend (second : Option String) (node : Node) (variation : Option Variation) :
    IsWithin node (descend second node variation).1 := by
  cases node with
  | leaf c => exact .inl rfl
  | child c p => exact .inl rfl
  | parent p =>
    rw [descend]
    cases hmatch : second.bind p.matchChild with
    | some found =>
      obtain ⟨token, -, hc⟩ := Option.bind_eq_some_iff.mp hmatch
      exact .inr ⟨p, rfl, found.1, (List.mem_filter.mp (mem_live_of_matchChild hc)).1, rfl⟩
    | none =>
      cases hdefault : p.defaultChild.bind p.findChild with
      | some c =>
        obtain ⟨name, -, hc⟩ := Option.bind_eq_some_iff.mp hdefault
        exact .inr ⟨p, rfl, c, List.mem_of_find?_eq_some hc, rfl⟩
      | none => exact .inl rfl

/-- One or two words select. -/
theorem count_descend (second : Option String) (node : Node) (variation : Option Variation) :
    1 ≤ (descend second node variation).2.1 ∧ (descend second node variation).2.1 ≤ 2 := by
  unfold descend
  split
  · split
    · exact ⟨Nat.le_succ 1, Nat.le_refl 2⟩
    · split
      · exact ⟨Nat.le_refl 1, Nat.le_succ 1⟩
      · exact ⟨Nat.le_refl 1, Nat.le_succ 1⟩
  · exact ⟨Nat.le_refl 1, Nat.le_succ 1⟩

/-- The variation by which a word selects a child of the node. -/
def childVariation (second : Option String) : Node → Option Variation
  | .parent p => (second.bind p.matchChild).bind Prod.snd
  | _ => none

theorem variation_descend (second : Option String) (node : Node) (variation : Option Variation) :
    (descend second node variation).2.2 = (childVariation second node).or variation := by
  cases node with
  | leaf c => rfl
  | child c p => rfl
  | parent p =>
    rw [descend, childVariation]
    cases second.bind p.matchChild with
    | some found => rfl
    | none => cases p.defaultChild.bind p.findChild <;> rfl

/-- A name or alias calls its owner, in any ASCII case and whatever follows it. What it
    calls is one and the same after any course of registrations that has the owner in it,
    and is still called after any more. -/
theorem resolve_owner {lead rest : String} (hn : n ∈ owner.command.info.names) (hne : n ≠ "")
    (hblank : ∀ c ∈ n.toList, isBlank c = false) (htyped : alike n typed = true) (hlead : isBlankText lead = true)
    (hrest : ∀ c, rest.toList.head? = some c → isBlank c = true) :
    ∃ found : Resolution, IsWithin owner found.node ∧
      ∀ offered : List Node, owner ∈ (ofOffers offered).direct →
        (ofOffers offered).resolve (lead ++ typed ++ rest) = .ok found ∧
          ∀ node r', (ofOffers offered).register node = .ok r' →
            r'.resolve (lead ++ typed ++ rest) = .ok found := by
  have htyped_ne : typed ≠ "" := fun h =>
    toList_ne_nil_of_alike htyped (fun h => hne (String.toList_eq_nil_iff.mp h)) (String.toList_eq_nil_iff.mpr h)
  have hwords : wordsOf (lead ++ typed ++ rest) = typed :: wordsOf rest :=
    wordsOf_append hlead htyped_ne (all_not_blank_of_alike htyped hblank) hrest
  have hcalls : ∀ offered, owner ∈ (ofOffers offered).direct →
      (ofOffers offered).resolve (lead ++ typed ++ rest) = .ok (.below (lead ++ typed ++ rest) owner none) := by
    intro offered ho
    refine resolve_eq_ok.mpr ⟨typed, owner, none, by rw [hwords]; rfl, ?_, rfl⟩
    exact (coherent_ofOffers offered).matchFirst_owner ho hn htyped
  refine ⟨.below (lead ++ typed ++ rest) owner none, isWithin_descend _ _ _, fun offered ho => ⟨hcalls offered ho, ?_⟩⟩
  intro node r' hr'
  rw [ofOffers_register hr']
  exact hcalls _ (ofOffers_concat offered node ▸ mem_direct_offer ho node)

/-! ### A name that others want -/

namespace Ratings

/-- A variation of it is spelled as the alias of another. -/
def nowPlaying : Command :=
  .simple { CommandInfo.make "np" "nowplaying" with variations := [⟨"import", ["import"], none⟩] } (.ofRun fun _ => .done)

def importRatings : Command :=
  .simple { CommandInfo.make "import" "importratings" with aliases := ["import"] } (.ofRun fun _ => .done)

def ratings : ParentCommand :=
  ⟨.simple (.make "ratings" "ratings") (.ofRun fun _ => .done), [importRatings], none, ["importratings"], none⟩

/-- Comes too late. -/
def impostor : Command := .simple (.make "impostor" "Import") (.ofRun fun _ => .done)

def offered : List Node := [.leaf nowPlaying, .parent ratings, .leaf impostor]

theorem mem_direct : .child importRatings ratings.command ∈ (ofOffers offered).direct := by
  have hfirst : empty.Accepts (.leaf nowPlaying) :=
    ⟨by decide, by decide, by decide, by decide, by decide⟩
  -- `decide` alone does not unfold how the bytes are listed that an id is the digest of
  set_option maxRecDepth 2000 in
  have hsecond : (empty.add (.leaf nowPlaying)).Accepts (.parent ratings) :=
    ⟨by decide, by with_unfolding_all decide, by with_unfolding_all decide, by decide, by decide⟩
  refine mem_direct_offer (r := (empty.offer (.leaf nowPlaying)).offer (.parent ratings)) ?_ (.leaf impostor)
  rw [offer_accepted hfirst, offer_accepted hsecond, direct_add]
  exact List.mem_append_right _ (List.mem_append_right _ List.mem_cons_self)

end Ratings

open Ratings in
/-- The alias calls the child that owns it. -/
theorem resolve_owner_import : ∃ found : Resolution, IsWithin (.child importRatings ratings.command) found.node ∧
    (ofOffers offered).resolve "  IMPORT file.csv" = .ok found := by
  have hn : "import" ∈ (Node.child importRatings ratings.command).command.info.names := by decide
  have hblank : "import".toList.any isBlank = false := by decide
  have htyped : alike "import" "IMPORT" = true := by decide
  have hlead : isBlankText "  " = true := by decide
  have hrest : " file.csv".toList.head? = some ' ' := by decide
  obtain ⟨found, hwithin, hcalls⟩ := resolve_owner hn (by decide)
    (fun c hc => Bool.eq_false_iff.mpr (List.any_eq_false.mp hblank c hc)) htyped hlead
    (fun c hc => Option.some.inj (hrest.symm.trans hc) ▸ rfl)
  exact ⟨found, hwithin, (hcalls offered mem_direct).1⟩

end Registry

end ChatBot
