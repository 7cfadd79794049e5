/-
  ChatBot.Proofs.Pipeline.Variations — which variations a handler is told of.

  Two words of a text can select by a variation: the first one a command that is called
  directly, the second one a child of a parent (`FirstBy`, `SecondBy`). One variation is
  kept, with its name and the selecting words that spell it; of two it is that of the
  second word. So every variation that was used is reported, except that of a parent whose
  child was selected by a variation as well (`resolve_reports`). Whatever handler is called
  in the end, by way of delegates or not, is told the same.
-/
import ChatBot.Proofs.Pipeline.Inheritance

namespace ChatBot

open Text

namespace Registry

variable {r : Registry} {node : Node} {text word s : String} {variation : Option Variation} {v u : Variation}
  {p : ParentCommand} {c : Command} {found : Resolution}

/-! ## What a word selects by -/

theorem isSpelled_of_variationFor {info : CommandInfo} (h : info.variationFor word = some v) : v.isSpelled word = true := by
  have hspelled := List.find?_some h
  exact hspelled

theorem isSpelled_of_matchFirst (h : r.matchFirst word = some (node, some v)) : v.isSpelled word = true := by
  rw [matchFirst_eq] at h
  obtain ⟨stage, -, h⟩ := List.exists_of_findSome?_eq_some h
  obtain ⟨d, -, h⟩ := List.exists_of_findSome?_eq_some h
  obtain ⟨found, hfound, he⟩ := Option.map_eq_some_iff.mp h
  obtain ⟨-, rfl⟩ := Prod.mk.inj he
  cases stage with
  | name => simp [answers] at hfound
  | «alias» => simp [answers] at hfound
  | variation =>
    obtain ⟨v', hv', he⟩ := Option.map_eq_some_iff.mp hfound
    cases he
    exact isSpelled_of_variationFor hv'

theorem isSpelled_of_matchChild (h : p.matchChild word = some (c, some v)) : v.isSpelled word = true := by
  unfold ParentCommand.matchChild at h
  split at h
  · cases h
  split at h
  · cases h
  split at h
  · rename_i hfind
    cases h
    obtain ⟨d, -, hd⟩ := List.exists_of_findSome?_eq_some hfind
    obtain ⟨v', hv', he⟩ := Option.map_eq_some_iff.mp hd
    obtain ⟨-, rfl⟩ := Prod.mk.inj he
    exact isSpelled_of_variationFor hv'
  · obtain ⟨d, -, he⟩ := Option.map_eq_some_iff.mp h
    cases he

/-- The first word of the text selects its command by a variation. -/
def FirstBy (r : Registry) (text word : String) (v : Variation) : Prop :=
  (wordsOf text).head? = some word ∧ ∃ node, r.matchFirst word = some (node, some v)

/-- The second word of the text selects a child by a variation. -/
def SecondBy (r : Registry) (text word : String) (v : Variation) : Prop :=
  (wordsOf text).tail.head? = some word ∧ ∃ first p variation c, (wordsOf text).head? = some first ∧
    r.matchFirst first = some (.parent p, variation) ∧ p.matchChild word = some (c, some v)

/-! ## What is reported -/

/-- A spelling is reported as that of the variation that is kept: it is its name, or a
    selecting word that spells it. -/
theorem usedVariation_below (text : String) (node : Node) (variation : Option Variation) (s : String) :
    (Resolution.below text node variation).invocation.usedVariation s = true ↔
      ∃ v, (childVariation (wordsOf text).tail.head? node).or variation = some v ∧
        (alike v.name s = true ∨
          ∃ w ∈ (Resolution.below text node variation).consumed, v.isSpelled w = true ∧ alike w s = true) := by
  have hmarks : (Resolution.below text node variation).invocation.variations =
      variationMarks ((childVariation (wordsOf text).tail.head? node).or variation)
        (Resolution.below text node variation).consumed := by
    rw [← variation_descend]
    rfl
  rw [Invocation.usedVariation, hmarks]
  cases (childVariation (wordsOf text).tail.head? node).or variation with
  | none => simp [variationMarks]
  | some v => simp [variationMarks]

theorem used_of_spelled (hv : (childVariation (wordsOf text).tail.head? node).or variation = some v)
    (hword : word ∈ (Resolution.below text node variation).consumed) (hspelled : v.isSpelled word = true) :
    (Resolution.below text node variation).invocation.usedVariation word = true ∧
      (Resolution.below text node variation).invocation.usedVariation v.name = true :=
  ⟨(usedVariation_below ..).mpr ⟨v, hv, .inr ⟨word, hword, hspelled, alike_refl word⟩⟩,
    (usedVariation_below ..).mpr ⟨v, hv, .inl (alike_refl v.name)⟩⟩

theorem mem_consumed_first (h : (wordsOf text).head? = some word) :
    word ∈ (Resolution.below text node variation).consumed := by
  obtain ⟨rest, hwords⟩ := List.head?_eq_some_iff.mp h
  have hcount := (count_descend (wordsOf text).tail.head? node variation).1
  show word ∈ (wordsOf text).take (descend (wordsOf text).tail.head? node variation).2.1
  rw [hwords] at hcount ⊢
  obtain ⟨n, hn⟩ := Nat.exists_eq_add_one.mpr hcount
  rw [hn, List.take_succ_cons]
  exact List.mem_cons_self

theorem consumed_of_childVariation {first : String} (hfirst : (wordsOf text).head? = some first)
    (hsecond : (wordsOf text).tail.head? = some word) (h : p.matchChild word = some (c, some v)) :
    (Resolution.below text (.parent p) variation).consumed = [first, word] := by
  obtain ⟨rest, hwords⟩ := List.head?_eq_some_iff.mp hfirst
  rw [hwords, List.tail_cons] at hsecond
  obtain ⟨rest, rfl⟩ := List.head?_eq_some_iff.mp hsecond
  have hcount : (descend (wordsOf text).tail.head? (.parent p) variation).2.1 = 2 := by
    rw [hwords, List.tail_cons, List.head?_cons, descend, Option.bind_some, h]
  show (wordsOf text).take (descend (wordsOf text).tail.head? (.parent p) variation).2.1 = [first, word]
  rw [hcount, hwords]
  rfl

/-- What is reported to a handler whose command the text calls. -/
structure Reports (r : Registry) (text : String) (used : String → Bool) : Prop where
  /-- The word that selects a child, and the name of its variation. -/
  second : ∀ word v, r.SecondBy text word v → used word = true ∧ used v.name = true
  /-- That which selects the command, when no child is selected so. -/
  first : ∀ word v, r.FirstBy text word v → (∀ word u, ¬ r.SecondBy text word u) →
    used word = true ∧ used v.name = true
  /-- The variation of a parent gives way to that of its child. -/
  displaced : ∀ first v second u, r.FirstBy text first v → r.SecondBy text second u → ∀ s,
    used s = true ↔ alike u.name s = true ∨ alike second s = true ∨ u.isSpelled first = true ∧ alike first s = true
  silent : (∀ word v, ¬ r.FirstBy text word v) → (∀ word v, ¬ r.SecondBy text word v) → ∀ s, used s = false

theorem childVariation_of_secondBy {first : String} (hfirst : (wordsOf text).head? = some first)
    (hmatch : r.matchFirst first = some (node, variation)) (h : r.SecondBy text word u) :
    ∃ p c, node = .parent p ∧ p.matchChild word = some (c, some u) ∧
      childVariation (wordsOf text).tail.head? node = some u := by
  obtain ⟨hsecond, first', p, variation', c, hfirst', hmatch', hchild⟩ := h
  obtain rfl : first = first' := Option.some.inj (hfirst.symm.trans hfirst')
  obtain ⟨rfl, rfl⟩ := Prod.mk.inj (Option.some.inj (hmatch.symm.trans hmatch'))
  refine ⟨p, c, rfl, hchild, ?_⟩
  rw [hsecond, childVariation, Option.bind_some, hchild]
  rfl

theorem secondBy_of_childVariation {first : String} (hfirst : (wordsOf text).head? = some first)
    (hmatch : r.matchFirst first = some (node, variation))
    (h : childVariation (wordsOf text).tail.head? node = some u) : ∃ word, r.SecondBy text word u := by
  cases node with
  | leaf c => cases h
  | child c p => cases h
  | parent p =>
    obtain ⟨⟨c, v⟩, hfound, hv⟩ := Option.bind_eq_some_iff.mp h
    obtain ⟨word, hsecond, hchild⟩ := Option.bind_eq_some_iff.mp hfound
    obtain rfl : v = some u := hv
    exact ⟨word, hsecond, first, p, variation, c, hfirst, hmatch, hchild⟩

theorem reports_below {first : String} (hfirst : (wordsOf text).head? = some first)
    (hmatch : r.matchFirst first = some (node, variation)) :
    r.Reports text (Resolution.below text node variation).invocation.usedVariation := by
  have hby : ∀ word v, r.FirstBy text word v → word = first ∧ variation = some v := by
    intro word v ⟨hword, node', hnode'⟩
    obtain rfl : first = word := Option.some.inj (hfirst.symm.trans hword)
    exact ⟨rfl, (Prod.mk.inj (Option.some.inj (hmatch.symm.trans hnode'))).2⟩
  constructor
  case second =>
    intro word v h
    obtain ⟨p, c, rfl, hchild, hv⟩ := childVariation_of_secondBy hfirst hmatch h
    refine used_of_spelled (by rw [hv]; rfl) ?_ (isSpelled_of_matchChild hchild)
    rw [consumed_of_childVariation hfirst h.1 hchild]
    exact List.mem_cons_of_mem _ List.mem_cons_self
  case first =>
    intro word v h hnone
    obtain ⟨rfl, rfl⟩ := hby word v h
    have hchild : childVariation (wordsOf text).tail.head? node = none := by
      by_contra hsome
      obtain ⟨u, hu⟩ := Option.ne_none_iff_exists'.mp hsome
      obtain ⟨second, hsecond⟩ := secondBy_of_childVariation hfirst hmatch hu
      exact hnone second u hsecond
    exact used_of_spelled (by rw [hchild]; rfl) (mem_consumed_first hfirst) (isSpelled_of_matchFirst hmatch)
  case displaced =>
    intro word v second u h h' s
    obtain ⟨rfl, rfl⟩ := hby word v h
    obtain ⟨p, c, rfl, hchild, hu⟩ := childVariation_of_secondBy hfirst hmatch h'
    have hspelled := isSpelled_of_matchChild hchild
    rw [usedVariation_below, hu, consumed_of_childVariation hfirst h'.1 hchild]
    simp only [Option.some_or, Option.some.injEq, exists_eq_left', List.mem_cons, List.not_mem_nil, or_false,
      exists_eq_or_imp, exists_eq_left, hspelled, true_and]
    exact or_congr_right or_comm
  case silent =>
    intro hnofirst hnosecond s
    rw [← Bool.not_eq_true, usedVariation_below]
    intro ⟨v, hv, _⟩
    rcases Option.or_eq_some_iff.mp hv with hchild | ⟨-, rfl⟩
    · obtain ⟨second, hsecond⟩ := secondBy_of_childVariation hfirst hmatch hchild
      exact hnosecond second v hsecond
    · exact hnofirst first v ⟨hfirst, node, hmatch⟩

/-! ## What a handler is told -/

/-- A run reports what its invocation does. -/
theorem usedVariation_ofResolution (config : Config) (message : InboundMessage) (h : r.resolve text = .ok found) :
    (Context.ofResolution config message found).usedVariation = found.invocation.usedVariation := by
  have hmarks : found.invocation.variations = variationMarks found.variation found.consumed := by
    obtain ⟨first, node, variation, -, -, rfl⟩ := resolve_eq_ok.mp h
    rfl
  funext s
  simp only [Context.usedVariation, Context.ofResolution, Invocation.usedVariation, hmarks]
  cases found.variation with
  | none => rfl
  | some v => simp [variationMarks]

/-- A text that calls a command reports the variations that its words selected by, that of
    a parent only where no child was selected by another; without any it reports nothing.
    Every handler that is called for a message with this text is told the same. -/
theorem resolve_reports (r : Registry) (text : String) (found : Resolution) (h : r.resolve text = .ok found) :
    r.Reports text found.invocation.usedVariation ∧
      ∀ (bot : Bot) (message : InboundMessage) (s : State), bot.registry = r →
        bot.invocationText message = some text → ∀ part d ctx, .called part d ctx ∈ (bot.handle message).marks s →
        ctx.usedVariation = found.invocation.usedVariation := by
  constructor
  · obtain ⟨first, node, variation, hfirst, hmatch, rfl⟩ := resolve_eq_ok.mp h
    exact reports_below hfirst hmatch
  · intro bot message s hregistry htext part d ctx hcalled
    obtain ⟨hreaches, hcalls⟩ := bot.handle_marks message s
    obtain ⟨found', before, last, hcalling, hreach⟩ := hreaches (List.ne_nil_of_mem hcalled)
    obtain rfl : found' = found := Bot.Calling.unique ⟨text, htext, by rw [hregistry]; exact h⟩ hcalling
    obtain ⟨-, rfl⟩ := (hcalls found' before last hcalling hreach).called_eq hcalled
    -- neither a delegation nor the reading of the arguments changes what is reported
    exact usedVariation_ofResolution bot.config message h

/-! ### Two variations -/

namespace Music

def albums : Command := .simple (.make "albums" "albums") (.ofRun fun _ => .done)

/-- Always hands over. -/
def importing : Command :=
  { Command.simple { CommandInfo.make "import" "import" with variations := [⟨"dry", ["preview"], none⟩] }
      (.ofRun fun _ => .done) with delegates := [(fun _ => true, albums)] }

def music : ParentCommand :=
  ⟨.simple { CommandInfo.make "music" "music" with variations := [⟨"short", ["m"], none⟩] } (.ofRun fun _ => .done),
    [importing], none, [], none⟩

def offered : List Node := [.parent music]

theorem registered : ofOffers offered = empty.add (.parent music) := by
  show empty.offer (.parent music) = _
  set_option maxRecDepth 2000 in
  exact offer_accepted ⟨by decide, by decide, by with_unfolding_all decide, by decide, by decide⟩

theorem matchFirst_m : (ofOffers offered).matchFirst "m" = some (.parent music, some ⟨"short", ["m"], none⟩) := by
  rw [registered]
  rfl

def selected : Resolution := .below "m Preview" (.parent music) (some ⟨"short", ["m"], none⟩)

theorem resolved : (ofOffers offered).resolve "m Preview" = .ok selected :=
  resolve_eq_ok.mpr ⟨"m", .parent music, some ⟨"short", ["m"], none⟩, rfl, matchFirst_m, rfl⟩

theorem firstBy : (ofOffers offered).FirstBy "m Preview" "m" ⟨"short", ["m"], none⟩ :=
  ⟨rfl, .parent music, matchFirst_m⟩

theorem secondBy : (ofOffers offered).SecondBy "m Preview" "Preview" ⟨"dry", ["preview"], none⟩ :=
  ⟨rfl, "m", music, _, importing, rfl, matchFirst_m, rfl⟩

def bot : Bot := ⟨ofOffers offered, Config.standard, []⟩

def message : InboundMessage := ⟨"m", "!m Preview", ⟨"1", "joe", none, false⟩, some "g", "c", [], none, []⟩

def start : State := .initial .empty 0

theorem calling : bot.Calling message selected := ⟨"m Preview", by decide, resolved⟩

theorem reaches_albums : bot.Reaches (.ofResolution bot.config message selected) start.stores start.today importing
    [importing] albums := by
  have hdelegates : importing.delegates = [] ++ (fun _ => true, albums) :: [] := rfl
  refine ⟨.hand hdelegates (by simp) rfl (.stay albums), ?_, ?_, ?_⟩
  · intro c hc
    have hc : c = importing ∨ c = albums := by simpa using hc
    rcases hc with rfl | rfl
    · exact ⟨by decide, rfl⟩
    · exact ⟨by decide, rfl⟩
  · simp [albums, Command.simple]
  · simp [albums, Command.simple]

end Music

open Music in
/-- The variation of the child is reported, also to the delegate, and the parent's is not. -/
theorem resolve_reports_preview :
    selected.invocation.usedVariation "Preview" = true ∧ selected.invocation.usedVariation "dry" = true ∧
      selected.invocation.usedVariation "short" = false ∧
      ∃ ctx, .called .prerun albums ctx ∈ (bot.handle message).marks start ∧ ctx.usedVariation "dry" = true := by
  obtain ⟨hreports, htold⟩ := resolve_reports (ofOffers offered) "m Preview" selected resolved
  obtain ⟨hword, hname⟩ := hreports.second "Preview" _ secondBy
  have hshort : ¬ selected.invocation.usedVariation "short" = true := by
    rw [hreports.displaced "m" _ "Preview" _ firstBy secondBy "short"]
    decide
  have hcalls := (bot.handle_marks message start).2 selected [importing] albums calling reaches_albums
  refine ⟨hword, hname, Bool.eq_false_iff.mpr hshort, _, hcalls.called, ?_⟩
  rw [htold bot message start rfl (by decide) .prerun albums _ hcalls.called]
  exact hname

open Music in
/-- So not every variation that selects is reported. -/
theorem not_resolve_reports : ¬ ∀ (offered : List Node) (text : String) (found : Resolution),
    (ofOffers offered).resolve text = .ok found → ∀ word v,
    (ofOffers offered).FirstBy text word v ∨ (ofOffers offered).SecondBy text word v →
    found.invocation.usedVariation word = true ∧ found.invocation.usedVariation v.name = true := by
  intro h
  obtain ⟨hword, -⟩ := h offered "m Preview" selected resolved "m" _ (.inl firstBy)
  exact absurd hword (by decide)

end Registry

end ChatBot
