/-
  ChatBot.Proofs.Registry.Spelling — in which letters the case of a name does not count.

  A registration compares names by their lowercase, in all of Unicode. The words of a text
  are compared with them up to the case of ASCII letters. Two texts whose first two words
  are alike in this sense choose the same command; so do ASCII texts whose words have the
  same lowercase. But when the first word has the lowercase of a name and is not alike to
  it, it is nobody's name: the name is taken for every spelling, and answers to one
  (`choice_spelling`).
-/
import ChatBot.Proofs.Registry.Names

namespace ChatBot

open Text

variable {a b : String}

/-! ## Alike words -/

theorem Variation.isSpelled_congr (v : Variation) (h : alike a b = true) : v.isSpelled a = v.isSpelled b :=
  congrArg v.tokens.any (alike_congr h)

namespace CommandInfo

theorem hasName_congr (c : CommandInfo) (h : alike a b = true) : c.hasName a = c.hasName b :=
  congrFun (alike_congr h) c.name

theorem hasAlias_congr (c : CommandInfo) (h : alike a b = true) : c.hasAlias a = c.hasAlias b :=
  congrArg c.aliases.any (alike_congr h)

theorem variationFor_congr (c : CommandInfo) (h : alike a b = true) : c.variationFor a = c.variationFor b :=
  congrArg (c.variations.find? ·) (funext fun v => v.isSpelled_congr h)

end CommandInfo

namespace ParentCommand

theorem abbreviated_congr (p : ParentCommand) (h : alike a b = true) : p.abbreviated a = p.abbreviated b := by
  unfold abbreviated
  rw [utf8ByteSize_eq_of_alike h, lower_eq_of_alike h]

theorem matchChild_congr (p : ParentCommand) (h : alike a b = true) : p.matchChild a = p.matchChild b := by
  unfold matchChild
  simp only [CommandInfo.hasName_congr _ h, CommandInfo.hasAlias_congr _ h, CommandInfo.variationFor_congr _ h,
    p.abbreviated_congr h]

end ParentCommand

namespace Registry

variable {r : Registry} {owner d : Node} {n other text : String} {stage : Stage} {ws ws' : List String}

theorem answers_congr (stage : Stage) (c : CommandInfo) (h : alike a b = true) :
    answers stage c a = answers stage c b := by
  cases stage with
  | name => rw [answers, answers, c.hasName_congr h]
  | «alias» => rw [answers, answers, c.hasAlias_congr h]
  | variation => rw [answers, answers, c.variationFor_congr h]

theorem matchFirst_congr (r : Registry) (h : alike a b = true) : r.matchFirst a = r.matchFirst b := by
  have hpick : ∀ stage, pick stage a = pick stage b := by
    intro stage
    funext d
    rw [pick, pick, answers_congr stage d.command.info h]
  simp only [matchFirst_eq, hpick]

/-! ## What the words of a text choose -/

/-- The command that a text calls, the variation, and how many words select it. -/
def choice (r : Registry) (text : String) : Option (CommandId × Option Variation × Nat) :=
  (r.resolve text).toOption.map fun found => (found.node.command.id, found.variation, found.consumed.length)

def choiceOf (r : Registry) : List String → Option (CommandId × Option Variation × Nat)
  | [] => none
  | first :: rest => (r.matchFirst first).map fun found =>
    let (node, count, variation) := descend rest.head? found.1 found.2
    (node.command.id, variation, ((first :: rest).take count).length)

theorem choice_eq (r : Registry) (text : String) : r.choice text = r.choiceOf (wordsOf text) := by
  rw [choice, resolve, texts_tokenize]
  cases wordsOf text with
  | nil => rfl
  | cons first rest =>
    rw [choiceOf]
    cases hmatch : r.matchFirst first with
    | none => simp only [hmatch]; rfl
    | some found => simp only [hmatch]; rfl

/-- Two words choose at most. -/
theorem choiceOf_take (r : Registry) (ws : List String) : r.choiceOf (ws.take 2) = r.choiceOf ws := by
  cases ws with
  | nil => rfl
  | cons first rest =>
    have hhead : (rest.take 1).head? = rest.head? := by cases rest <;> rfl
    rw [List.take_succ_cons, choiceOf, choiceOf, hhead]
    congr 1
    funext found
    have hcount := (count_descend rest.head? found.1 found.2).2
    have htake : (first :: rest.take 1).take (descend rest.head? found.1 found.2).2.1 =
        (first :: rest).take (descend rest.head? found.1 found.2).2.1 := by
      rw [← List.take_succ_cons, List.take_take, Nat.min_eq_left hcount]
    simp only [htake]

theorem descend_congr (h : List.Forall₂ (fun s t => alike s t = true) ws ws') (node : Node)
    (variation : Option Variation) : descend ws.head? node variation = descend ws'.head? node variation := by
  have hchild : ∀ p : ParentCommand, ws.head?.bind p.matchChild = ws'.head?.bind p.matchChild := by
    intro p
    cases h with
    | nil => rfl
    | cons hsecond _ => exact p.matchChild_congr hsecond
  cases node with
  | leaf c => rfl
  | child c p => rfl
  | parent p => rw [descend, descend, hchild p]

/-- Words that are alike choose the same. -/
theorem choiceOf_congr (h : List.Forall₂ (fun s t => alike s t = true) ws ws') : r.choiceOf ws = r.choiceOf ws' := by
  cases h with
  | nil => rfl
  | cons hfirst hrest =>
    simp only [choiceOf, r.matchFirst_congr hfirst, descend_congr hrest, List.length_take, List.length_cons,
      hrest.length_eq]

theorem choice_congr (h : List.Forall₂ (fun s t => alike s t = true) ((wordsOf a).take 2) ((wordsOf b).take 2)) :
    r.choice a = r.choice b := by
  rw [choice_eq, choice_eq, ← choiceOf_take, choiceOf_congr h, choiceOf_take]

/-! ## A spelling that is nobody's -/

/-- A word that has the lowercase of a name, and is not alike to it, finds by variation only. -/
theorem Coherent.matchFirst_respelled (hr : r.Coherent) (ho : owner ∈ r.direct) (hn : n ∈ owner.command.info.names)
    (hlower : lower other = lower n) (hnot : alike n other = false) :
    r.matchFirst other = r.direct.findSome? (pick .variation other) := by
  have hnobody : ∀ stage ≠ Stage.variation, r.direct.findSome? (pick stage other) = none := by
    intro stage hstage
    refine List.findSome?_eq_none_iff.mpr fun d hd => ?_
    by_contra hpick
    obtain ⟨-, halike⟩ := hr.owner_of_pick ho hn hlower.symm hstage hd hpick
    cases halike.symm.trans hnot
  rw [matchFirst_eq, List.findSome?_cons, hnobody .name (by decide), List.findSome?_cons, hnobody .alias (by decide),
    List.findSome?_cons]
  cases r.direct.findSome? (pick .variation other) <;> rfl

theorem pick_variation_eq_none :
    pick .variation other d = none ↔ ∀ v ∈ d.command.info.variations, v.isSpelled other = false := by
  simp [pick, answers, CommandInfo.variationFor]

theorem variation_of_pick {node : Node} {variation : Option Variation}
    (h : pick .variation other d = some (node, variation)) : variation ≠ none := by
  obtain ⟨found, hfound, he⟩ := Option.map_eq_some_iff.mp h
  obtain ⟨v, -, rfl⟩ := Option.map_eq_some_iff.mp hfound
  obtain ⟨-, rfl⟩ := Prod.mk.inj he
  exact Option.some_ne_none v

/-- A text that begins with such a word chooses nothing, or by a variation. -/
theorem Coherent.choice_respelled (hr : r.Coherent) (ho : owner ∈ r.direct) (hn : n ∈ owner.command.info.names)
    (hlower : lower other = lower n) (hnot : alike n other = false) (hfirst : (wordsOf text).head? = some other) :
    (r.choice text = none ↔ ∀ d ∈ r.direct, ∀ v ∈ d.command.info.variations, v.isSpelled other = false) ∧
      ∀ id variation count, r.choice text = some (id, variation, count) → variation ≠ none := by
  obtain ⟨rest, hwords⟩ := List.head?_eq_some_iff.mp hfirst
  rw [choice_eq, hwords, choiceOf, hr.matchFirst_respelled ho hn hlower hnot, Option.map_eq_none_iff,
    List.findSome?_eq_none_iff]
  constructor
  · simp only [pick_variation_eq_none]
  · intro id variation count h
    obtain ⟨found, hfound, he⟩ := Option.map_eq_some_iff.mp h
    obtain ⟨d, -, hpick⟩ := List.exists_of_findSome?_eq_some hfound
    have hkept : (descend rest.head? found.1 found.2).2.2 = variation := congrArg (·.2.1) he
    rw [variation_descend] at hkept
    intro hnone
    exact variation_of_pick hpick (Option.or_eq_none_iff.mp (hkept.trans hnone)).2

/-- Texts whose first two words are alike choose the same command, by the same variation and
    as many words; and so do ASCII texts in which these words have the same lowercase. But a
    text whose first word has the lowercase of a name and is not alike to it chooses only
    what has a variation of this spelling, whoever has the name. -/
theorem choice_spelling (offered : List Node) :
    (∀ a b, List.Forall₂ (fun s t => alike s t = true) ((wordsOf a).take 2) ((wordsOf b).take 2) →
        (ofOffers offered).choice a = (ofOffers offered).choice b) ∧
      (∀ a b, List.Forall₂ (fun s t => IsAscii s ∧ IsAscii t ∧ lower s = lower t)
          ((wordsOf a).take 2) ((wordsOf b).take 2) →
        (ofOffers offered).choice a = (ofOffers offered).choice b) ∧
      ∀ owner ∈ (ofOffers offered).direct, ∀ n ∈ owner.command.info.names, ∀ other text,
        (wordsOf text).head? = some other → lower other = lower n → alike n other = false →
        ((ofOffers offered).choice text = none ↔
            ∀ d ∈ (ofOffers offered).direct, ∀ v ∈ d.command.info.variations, v.isSpelled other = false) ∧
          ∀ id variation count, (ofOffers offered).choice text = some (id, variation, count) → variation ≠ none := by
  refine ⟨fun a b h => choice_congr h, ?_, ?_⟩
  · intro a b h
    refine choice_congr (h.imp ?_)
    intro s t hst
    exact alike_of_lower_eq hst.1 hst.2.1 hst.2.2
  · intro owner ho n hn other text hfirst hlower hnot
    exact (coherent_ofOffers offered).choice_respelled ho hn hlower hnot hfirst

/-! ### An accent -/

namespace Accents

def ecole : Command := .simple { CommandInfo.make "ecole" "École" with aliases := ["sch"] } (.ofRun fun _ => .done)

def offered : List Node := [.leaf ecole]

theorem registered : ofOffers offered = empty.add (.leaf ecole) := by
  show empty.offer (.leaf ecole) = _
  exact offer_accepted ⟨by decide, by decide, by decide, by decide, by decide⟩

theorem mem_direct : .leaf ecole ∈ (ofOffers offered).direct := by
  rw [registered]
  exact List.mem_cons_self

theorem choice_name : (ofOffers offered).choice "École" = some (ecole.id, none, 1) := by
  rw [registered]
  rfl

theorem words_eq : wordsOf "École" = ["École"] ∧ wordsOf "école" = ["école"] := ⟨rfl, rfl⟩

theorem lower_eq : lower "École" = lower "école" := by decide

theorem choice_respelled : (ofOffers offered).choice "école" = none := by
  rw [registered]
  rfl

end Accents

open Accents in
/-- ASCII letters may be in any case, and the accent may not. -/
theorem choice_spelling_ecole :
    (ofOffers offered).choice "ÉCOLE 1" = (ofOffers offered).choice "École 1" ∧
      (ofOffers offered).choice "SCH" = (ofOffers offered).choice "Sch" ∧
      (ofOffers offered).choice "école" = none := by
  obtain ⟨halike, hascii, hrespelled⟩ := choice_spelling offered
  have hcapital : (wordsOf "ÉCOLE 1").take 2 = ["ÉCOLE", "1"] ∧ (wordsOf "École 1").take 2 = ["École", "1"] := ⟨rfl, rfl⟩
  have hshort : (wordsOf "SCH").take 2 = ["SCH"] ∧ (wordsOf "Sch").take 2 = ["Sch"] := ⟨rfl, rfl⟩
  have hnone : ∀ d ∈ (ofOffers offered).direct, ∀ v ∈ d.command.info.variations, v.isSpelled "école" = false := by
    rw [registered]
    decide
  refine ⟨halike "ÉCOLE 1" "École 1" ?_, hascii "SCH" "Sch" ?_, ?_⟩
  · rw [hcapital.1, hcapital.2]
    exact .cons (by decide) (.cons (by decide) .nil)
  · rw [hshort.1, hshort.2]
    exact .cons (by decide) .nil
  · exact (hrespelled (.leaf ecole) mem_direct "École" (by decide) "école" "école" rfl lower_eq.symm (by decide)).1.mpr hnone

open Accents in
/-- So a name that is typed in other case need not call its owner. -/
theorem not_choice_spelling : ¬ ∀ (offered : List Node) (a b : String), (wordsOf a).length = (wordsOf b).length →
    List.Forall₂ (fun s t => lower s = lower t) ((wordsOf a).take 2) ((wordsOf b).take 2) →
    (ofOffers offered).choice a = (ofOffers offered).choice b := by
  intro h
  have hlower : List.Forall₂ (fun s t => lower s = lower t) ((wordsOf "École").take 2) ((wordsOf "école").take 2) := by
    rw [words_eq.1, words_eq.2]
    exact .cons lower_eq .nil
  have hsame := h offered "École" "école" (by rw [words_eq.1, words_eq.2]; rfl) hlower
  rw [choice_name, choice_respelled] at hsame
  cases hsame

end Registry

end ChatBot
