/-
  ChatBot.Proofs.Argument.Periods — the range that a text names, and how it is worded.

  A text is read once for the range and once for the wording. The wording gives back an
  amount and a unit (`wording_inj`), and the range has to be the one that reaches back by
  just these.

  Proved:
  - `findPeriod_written`: every amount and unit can be written, and are found.
  - `range_agrees_with_wording`: for every text, both are about all of time, or the wording
    names an amount and a unit and the range reaches back by them. Only where that is
    before the earliest instant there is, the range is all of time, and the wording is
    not (`not_range_agrees_with_wording`).
-/
import ChatBot.Argument.Schema
import ChatBot.Proofs.Calendar
import ChatBot.Proofs.Text.Pattern

namespace ChatBot.TimeRange

open Text Pattern

theorem Unit.mem_all (unit : Unit) : unit ∈ Unit.all := by
  cases unit <;> decide

/-! ## The wording -/

/-- How a period is worded. -/
def wording (amount : Nat) (unit : Unit) : String :=
  if amount = 1 then "over the past " ++ unit.singular
  else "over the past " ++ toString amount ++ " " ++ unit.singular ++ "s"

theorem humanize_of_overall {text : String} (h : namesOverall text = true) : humanize text = "overall" := by
  rw [humanize, if_pos h]

theorem humanize_of_period {text : String} (h : namesOverall text = false) {amount : Nat} {unit : Unit}
    (hp : findPeriod text = some (amount, unit)) : humanize text = wording amount unit := by
  rw [humanize, if_neg (by simp [h]), hp]
  rfl

theorem humanize_of_none {text : String} (hp : findPeriod text = none) : humanize text = "overall" := by
  rw [humanize, hp]
  split <;> rfl

/-- The digits of an amount, when it is worded. -/
def amountDigits (amount : Nat) : List Char := if amount = 1 then [] else Nat.toDigits 10 amount

/-- What follows the digits. -/
def unitChars (amount : Nat) (unit : Unit) : List Char :=
  if amount = 1 then unit.singular.toList else ' ' :: (unit.singular.toList ++ ['s'])

theorem wording_toList (amount : Nat) (unit : Unit) :
    (wording amount unit).toList = "over the past ".toList ++ (amountDigits amount ++ unitChars amount unit) := by
  unfold wording amountDigits unitChars
  split
  · simp
  · simp [Nat.toString_eq_repr, Nat.toList_repr]

theorem takeWhile_isDigit (amount : Nat) (unit : Unit) :
    (amountDigits amount ++ unitChars amount unit).takeWhile Char.isDigit = amountDigits amount := by
  have hdigits : ∀ c ∈ amountDigits amount, c.isDigit = true := by
    intro c hc
    unfold amountDigits at hc
    split at hc
    · cases hc
    · exact Nat.isDigit_of_mem_toDigits (by decide) (by decide) hc
  have hunit : (unitChars amount unit).takeWhile Char.isDigit = [] := by
    unfold unitChars
    split
    · cases unit <;> decide
    · rfl
  rw [List.takeWhile_append_of_pos hdigits, hunit, List.append_nil]

theorem Unit.singular_inj {unit unit' : Unit} (h : unit.singular = unit'.singular) : unit = unit' := by
  have hall : ∀ u ∈ Unit.all, ∀ u' ∈ Unit.all, u.singular = u'.singular → u = u' := by decide
  exact hall unit unit.mem_all unit' unit'.mem_all h

theorem amountDigits_inj {amount amount' : Nat} (h : amountDigits amount = amountDigits amount') :
    amount = amount' := by
  unfold amountDigits at h
  split at h <;> split at h
  · omega
  · exact absurd h.symm Nat.toDigits_ne_nil
  · exact absurd h Nat.toDigits_ne_nil
  · have hparsed := congrArg (Nat.ofDigitChars 10 · 0) h
    simpa using hparsed

/-- A wording is that of one amount and one unit. -/
theorem wording_inj {amount amount' : Nat} {unit unit' : Unit}
    (h : wording amount unit = wording amount' unit') : amount = amount' ∧ unit = unit' := by
  have hlists := congrArg String.toList h
  rw [wording_toList, wording_toList] at hlists
  have htails := List.append_cancel_left hlists
  -- No unit begins with a digit, so the digits end where the unit begins.
  have hamount : amount = amount' := by
    have hdigits := congrArg (List.takeWhile Char.isDigit) htails
    rw [takeWhile_isDigit, takeWhile_isDigit] at hdigits
    exact amountDigits_inj hdigits
  subst hamount
  have hunits := List.append_cancel_left htails
  refine ⟨rfl, Unit.singular_inj (String.toList_inj.mp ?_)⟩
  unfold unitChars at hunits
  split at hunits
  · exact hunits
  · exact List.append_cancel_right (List.cons.inj hunits).2

theorem wording_ne_overall (amount : Nat) (unit : Unit) : wording amount unit ≠ "overall" := by
  intro h
  have hlist := congrArg String.toList h
  rw [wording_toList] at hlist
  have hfifth := congrArg (·[4]?) hlist
  rw [List.getElem?_append_left (by decide)] at hfifth
  revert hfifth
  decide

/-! ## What is written is found -/

theorem digit_mem {c : Char} (h : c.isDigit = true) : c ∈ "0123456789".toList := by
  have hc : c = Char.ofNat c.toNat := (Char.ofNat_toNat c).symm
  have hbounds : 48 ≤ c.toNat ∧ c.toNat ≤ 57 := by
    simpa [Char.isDigit, UInt32.le_iff_toNat_le] using h
  rw [hc]
  generalize c.toNat = n at hbounds
  obtain ⟨hlow, hhigh⟩ := hbounds
  have hdigit : ∀ k, k < 10 → Char.ofNat (48 + k) ∈ "0123456789".toList := by decide
  have hn := hdigit (n - 48) (by omega)
  rwa [Nat.add_sub_cancel' hlow] at hn

/-- What is decided of ten digits is true of the digits of every amount. -/
theorem forall_digit (p : Char → Bool) (h : "0123456789".toList.all p = true) {amount : Nat} {c : Char}
    (hc : c ∈ Nat.toDigits 10 amount) : p c = true :=
  List.all_eq_true.mp h c (digit_mem (Nat.isDigit_of_mem_toDigits (by decide) (by decide) hc))

theorem written_toList (amount : Nat) (word : String) :
    (toString amount ++ " " ++ word).toList = Nat.toDigits 10 amount ++ (' ' :: word.toList) := by
  simp [Nat.toString_eq_repr, Nat.toList_repr]

theorem amount?_toDigits {amount : Nat} (h : amount < 0x100000000) :
    amount? (some (Nat.toDigits 10 amount)) = some amount := by
  have hall : (Nat.toDigits 10 amount).all isAsciiDigit = true :=
    List.all_eq_true.mpr fun c hc => forall_digit isAsciiDigit (by decide) hc
  have hsign : ∀ c ∈ Nat.toDigits 10 amount, (c != '+') = true := fun c hc => forall_digit (· != '+') (by decide) hc
  have hvalue : Decimal.digitsValue (Nat.toDigits 10 amount) = amount := Nat.ofDigitChars_ten_toDigits
  show Decimal.toNatBelow? _ _ = _
  unfold Decimal.toNatBelow?
  rw [String.toList_ofList]
  split
  · rename_i cs hplus
    exact absurd (hsign '+' (hplus ▸ List.mem_cons_self)) (by decide)
  · dsimp only
    rw [hvalue, hall, if_neg (by simp [Nat.toDigits_ne_nil]), if_pos h]

theorem prefers_word {unit : Unit} {word : String} (h : word ∈ unit.spellings) (groups : List (List Char)) :
    (seqAll [.group unitWords, edgeAfter]).Prefers ⟨some ' ', word.toList, groups⟩
      ⟨word.toList.getLast?, [], word.toList :: groups⟩ := by
  have hall : ∀ u ∈ Unit.all, ∀ w ∈ u.spellings,
      ((seqAll [.group unitWords, edgeAfter]).ends ⟨some ' ', w.toList, []⟩).head? =
        some ⟨w.toList.getLast?, [], [w.toList]⟩ := by
    decide
  exact Prefers.groups (hall unit unit.mem_all word h) groups

/-- An amount, a space and a unit match from the start of the text on. -/
theorem prefers_period (amount : Nat) {unit : Unit} {word : String} (h : word ∈ unit.spellings) :
    periodPattern.Prefers (.atStart (Nat.toDigits 10 amount ++ (' ' :: word.toList)))
      ⟨word.toList.getLast?, [], [word.toList, Nat.toDigits 10 amount]⟩ := by
  have hdecimal : ∀ c ∈ Nat.toDigits 10 amount, isDecimal c = true :=
    fun c hc => forall_digit isDecimal (by decide) hc
  have hwords : ∀ u ∈ Unit.all, ∀ w ∈ u.spellings, w.toList.head?.any isBlank = false := by decide
  have hblank : ∀ c ∈ word.toList.head?, isBlank c = false := by
    intro c hc
    have hnone := hwords unit unit.mem_all word h
    rwa [Option.mem_def.mp hc] at hnone
  have hstop : ∀ c ∈ (' ' :: word.toList).head?, isDecimal c = false := by
    rintro c ⟨⟩
    decide
  have hne : Nat.toDigits 10 amount ≠ [] := Nat.toDigits_ne_nil
  obtain ⟨c, cs, hcs⟩ := List.exists_cons_of_ne_nil hne
  rw [hcs] at hdecimal ⊢
  have hedge : edgeBefore.Prefers (.atStart (c :: cs ++ ' ' :: word.toList))
      (.atStart (c :: cs ++ ' ' :: word.toList)) := Prefers.alt rfl
  have hamount := (prefers_atLeastOne hdecimal hstop none []).group
  rw [Place.upTo_append] at hamount
  have hspace : (Pattern.many isBlank).Prefers ⟨(c :: cs).getLast?, [' '] ++ word.toList, [c :: cs]⟩
      ⟨some ' ', word.toList, [c :: cs]⟩ :=
    prefers_many (List.forall_mem_singleton.mpr (by decide)) hblank _ _
  exact hedge.seq (hamount.alt.seq (hspace.seq (prefers_word h [c :: cs])))

/-- Every period is named by its amount and a word for its unit. -/
theorem findPeriod_written {amount : Nat} (hpos : 0 < amount) (hlt : amount < 0x100000000) {unit : Unit} {word : String}
    (hword : word ∈ unit.spellings) : findPeriod (toString amount ++ " " ++ word) = some (amount, unit) := by
  have hunit : Unit.ofWord? (String.ofList word.toList) = some unit := by
    have hall : ∀ u ∈ Unit.all, ∀ w ∈ u.spellings, Unit.ofWord? (String.ofList w.toList) = some u := by decide
    exact hall unit unit.mem_all word hword
  obtain ⟨found, hfound⟩ := find?_of_prefers (prefers_period amount hword)
  rw [findPeriod, written_toList, hfound]
  show (amount? (some (Nat.toDigits 10 amount)) >>= fun amount =>
    Unit.ofWord? (String.ofList word.toList) >>= fun unit => if amount > 0 then some (amount, unit) else none) = _
  rw [amount?_toDigits hlt, hunit]
  exact if_pos hpos

theorem ends_overall {amount : Nat} {c : Char} (h : c ∈ Nat.toDigits 10 amount) (before : Option Char)
    (rest : List Char) : overallPattern.ends ⟨before, c :: rest, []⟩ = [] := by
  have hdigit := forall_digit (fun c => !foldsTo 'o' c && !foldsTo 'a' c && !isBlank c) (by decide) h
  obtain ⟨⟨ho, ha⟩, hb⟩ : (foldsTo 'o' c = false ∧ foldsTo 'a' c = false) ∧ isBlank c = false := by
    simpa using hdigit
  have hwords : (firstOf [.anyCase "overall", .anyCase "alltime", .anyCase "all-time"]).ends
      ⟨before, c :: rest, []⟩ = [] := by
    simp [firstOf, anyCase, ends, ho, ha]
  refine List.flatMap_eq_nil_iff.mpr fun q hq => ?_
  have hplace : q = ⟨before, c :: rest, []⟩ := by
    have hedge : q ∈ (if before.isNone then [(⟨before, c :: rest, []⟩ : Place)] else []) ++ [] := by
      simpa only [edgeBefore, ends, hb, Bool.false_eq_true, if_false] using hq
    rw [List.append_nil] at hedge
    split at hedge
    · exact List.mem_singleton.mp hedge
    · cases hedge
  show (Pattern.ends _ q).flatMap edgeAfter.ends = []
  rw [hplace, hwords, List.flatMap_nil]

theorem namesOverall_written (amount : Nat) {unit : Unit} {word : String}
    (hword : word ∈ unit.spellings) : namesOverall (toString amount ++ " " ++ word) = false := by
  have hall : ∀ u ∈ Unit.all, ∀ w ∈ u.spellings,
      ("0123456789".toList.all fun c => !(overallPattern.findFrom (some c) (' ' :: w.toList)).isSome) = true := by
    decide
  -- Past the digits, the last of them and the word decide: finitely many cases.
  rw [namesOverall, isMatch, find?, written_toList, findFrom_append _ _ fun c hc => ends_overall hc]
  have hne : Nat.toDigits 10 amount ≠ [] := Nat.toDigits_ne_nil
  rw [List.getLast?_eq_some_getLast hne]
  have hlast := forall_digit _ (hall unit unit.mem_all word hword) (List.getLast_mem hne)
  exact (Bool.not_eq_true' _).mp hlast

/-! ## The range -/

/-- What is made of an amount and a word once they are found. -/
theorem check_eq_some (digits : Option (List Char)) (word : String) {amount : Nat} {unit : Unit} :
    (amount? digits >>= fun n => Unit.ofWord? word >>= fun u => if n > 0 then some (n, u) else none) =
        some (amount, unit) ↔
      amount? digits = some amount ∧ Unit.ofWord? word = some unit ∧ 0 < amount := by
  constructor
  · intro h
    obtain ⟨n, hn, h⟩ := Option.bind_eq_some_iff.mp h
    obtain ⟨u, hu, h⟩ := Option.bind_eq_some_iff.mp h
    obtain ⟨hpos, heq⟩ := Option.ite_none_right_eq_some.mp h
    cases heq
    exact ⟨hn, hu, hpos⟩
  · rintro ⟨hn, hu, hpos⟩
    rw [hn, hu]
    exact if_pos hpos

theorem findPeriod_pos {text : String} {amount : Nat} {unit : Unit} (h : findPeriod text = some (amount, unit)) :
    0 < amount := by
  unfold findPeriod at h
  obtain ⟨⟨_, place⟩, -, h⟩ := Option.bind_eq_some_iff.mp h
  dsimp only at h
  split at h
  · exact ((check_eq_some none (String.ofList _)).mp h).2.2
  · exact ((check_eq_some (some _) (String.ofList _)).mp h).2.2
  · cases h

/-- An instant is so many units before another. -/
def Unit.Precedes (unit : Unit) (amount : Nat) (start now : Instant) : Prop :=
  match unit.length with
  | .seconds n => start + (n * amount : Nat) = now
  | .months n => Calendar.MonthsBefore (n * amount) start now

theorem Unit.exists_precedes (unit : Unit) (amount : Nat) (now : Instant) :
    ∃ start, unit.Precedes amount start now := by
  unfold Precedes
  cases unit.length with
  | seconds n => exact ⟨now - (n * amount : Nat), Int.sub_add_cancel _ _⟩
  | months n => exact ⟨_, Calendar.monthsBefore_iff.mpr rfl⟩

theorem Unit.Precedes.unique {unit : Unit} {amount : Nat} {start start' now : Instant}
    (h : unit.Precedes amount start now) (h' : unit.Precedes amount start' now) : start = start' := by
  unfold Precedes at h h'
  cases hlength : unit.length with
  | seconds n =>
    rw [hlength] at h h'
    dsimp only [Instant] at *
    omega
  | months n =>
    rw [hlength] at h h'
    exact (Calendar.monthsBefore_iff.mp h).trans (Calendar.monthsBefore_iff.mp h').symm

theorem Unit.before_eq_some {now start : Instant} (late : now ≤ Calendar.latest) (unit : Unit) (amount : Nat) :
    unit.before now amount = some start ↔ unit.Precedes amount start now ∧ Calendar.earliest ≤ start := by
  unfold before Precedes
  cases unit.length with
  | seconds n => exact Calendar.minusSeconds_eq_some late _
  | months n => exact Calendar.minusMonths_eq_some late _

/-- Going back fails before the earliest instant only. -/
theorem Unit.Precedes.before_eq {now start : Instant} (late : now ≤ Calendar.latest) {unit : Unit} {amount : Nat}
    (h : unit.Precedes amount start now) :
    unit.before now amount = if Calendar.earliest ≤ start then some start else none := by
  split
  · rename_i hearly
    exact (before_eq_some late unit amount).mpr ⟨h, hearly⟩
  · rename_i hearly
    refine Option.eq_none_iff_forall_ne_some.mpr fun start' hstart' => hearly ?_
    obtain ⟨hprecedes, hearly'⟩ := (before_eq_some late unit amount).mp hstart'
    rwa [h.unique hprecedes]

theorem parse_of_period {text : String} (h : namesOverall text = false) {amount : Nat} {unit : Unit}
    (hp : findPeriod text = some (amount, unit)) (now : Instant) :
    parse text now = (unit.before now amount).map fun start => ⟨some start, some now⟩ := by
  rw [parse, if_neg (by simp [h]), hp]
  show (unit.before now amount >>= fun start => some _) = _
  cases unit.before now amount <;> rfl

theorem parse_of_none {text : String} (hp : findPeriod text = none) (now : Instant) :
    (parse text now).getD overall = overall := by
  rw [parse, hp]
  split <;> rfl

/-! ## Both -/

theorem agrees_at (text : String) {now : Instant} (late : now ≤ Calendar.latest) :
    (humanize text = "overall" ∧ (parse text now).getD overall = overall) ∨
      ∃ amount unit start, 0 < amount ∧ humanize text = wording amount unit ∧ unit.Precedes amount start now ∧
        (parse text now).getD overall = if Calendar.earliest ≤ start then ⟨some start, some now⟩ else overall := by
  cases ho : namesOverall text with
  | true => exact .inl ⟨humanize_of_overall ho, by rw [parse, if_pos ho]; rfl⟩
  | false =>
    cases hp : findPeriod text with
    | none => exact .inl ⟨humanize_of_none hp, parse_of_none hp now⟩
    | some found =>
      obtain ⟨amount, unit⟩ := found
      obtain ⟨start, hstart⟩ := unit.exists_precedes amount now
      refine .inr ⟨amount, unit, start, findPeriod_pos hp, humanize_of_period ho hp, hstart, ?_⟩
      rw [parse_of_period ho hp, hstart.before_eq late]
      split <;> rfl

/-- At every moment: the range and the wording of a text are both about all of time, or the
    wording is that of one amount and one unit and the range starts by just these before
    the moment; but where that is not supported, the range is all of time. And every
    amount and unit can be named. -/
theorem range_agrees_with_wording (now : Instant) (late : now ≤ Calendar.latest) :
    (∀ text, ∃ range words, Transform.timeRange now text = some (.period range) ∧
      Transform.humanizedTimeRange now text = some (.text words) ∧
      ((words = "overall" ∧ range = overall) ∨
        ∃ amount unit start, 0 < amount ∧ (∀ n u, words = wording n u ↔ n = amount ∧ u = unit) ∧ words ≠ "overall" ∧
          unit.Precedes amount start now ∧
          range = if Calendar.earliest ≤ start then ⟨some start, some now⟩ else overall)) ∧
      ∀ amount unit, 0 < amount → amount < 0x100000000 → ∀ word ∈ unit.spellings,
        Transform.humanizedTimeRange now (toString amount ++ " " ++ word) = some (.text (wording amount unit)) := by
  constructor
  · intro text
    refine ⟨(parse text now).getD overall, humanize text, rfl, rfl, ?_⟩
    rcases agrees_at text late with hoverall | ⟨amount, unit, start, hpos, hwords, hstart, hrange⟩
    · exact .inl hoverall
    · refine .inr ⟨amount, unit, start, hpos, fun n u => ?_, ?_, hstart, hrange⟩
      · rw [hwords]
        refine ⟨fun heq => ?_, fun ⟨hn, hu⟩ => by rw [hn, hu]⟩
        obtain ⟨hn, hu⟩ := wording_inj heq
        exact ⟨hn.symm, hu.symm⟩
      · rw [hwords]
        exact wording_ne_overall amount unit
  · intro amount unit hpos hlt word hword
    refine congrArg (fun words => some (ArgValue.text words)) ?_
    exact humanize_of_period (namesOverall_written amount hword) (findPeriod_written hpos hlt hword)

/-- A month before the last day of March 2024 is the leap day, at the same time of day. -/
theorem range_agrees_with_wording_march :
    (1711886400 : Instant) ≤ Calendar.latest ∧
      Transform.timeRange 1711886400 "1 M" = some (.period ⟨some 1709208000, some 1711886400⟩) ∧
      Transform.humanizedTimeRange 1711886400 "1 M" = some (.text "over the past month") ∧
      Unit.month.Precedes 1 1709208000 1711886400 ∧
      Transform.humanizedTimeRange 1711886400 (toString 300000 ++ " " ++ "years") =
        some (.text "over the past 300000 years") := by
  have late : (1711886400 : Instant) ≤ Calendar.latest := by decide
  have hvalue : (parse "1 M" 1711886400).getD overall = ⟨some 1709208000, some 1711886400⟩ := by decide
  have hwords : humanize "1 M" = wording 1 .month := by decide
  obtain ⟨hagree, hwritten⟩ := range_agrees_with_wording 1711886400 late
  obtain ⟨range, words, hrange, hhumanized, h⟩ := hagree "1 M"
  obtain rfl : _ = range := ArgValue.period.inj (Option.some.inj hrange)
  obtain rfl : _ = words := ArgValue.text.inj (Option.some.inj hhumanized)
  rw [hvalue] at hrange h
  refine ⟨late, hrange, hhumanized.trans (by rw [hwords]; rfl), ?_,
    hwritten 300000 .year (by decide) (by decide) "years" (by decide)⟩
  rcases h with ⟨-, hoverall⟩ | ⟨amount, unit, start, -, hunique, -, hstart, heq⟩
  · cases hoverall
  · obtain ⟨rfl, rfl⟩ := (hunique 1 .month).mp hwords
    split at heq
    · obtain rfl := Option.some.inj (TimeRange.mk.inj heq).1
      exact hstart
    · cases heq

/-- The wording of a period that reaches back too far still names it. -/
theorem not_range_agrees_with_wording :
    ¬ ∀ (text : String) (now : Instant), Calendar.earliest ≤ now → now ≤ Calendar.latest →
      (humanize text = "overall" ↔ ((parse text now).getD overall).isOverall = true) ∧
        (humanize text ≠ "overall" → ∃ amount unit start, humanize text = wording amount unit ∧
          (parse text now).getD overall = ⟨some start, some now⟩ ∧ unit.Precedes amount start now) := by
  intro h
  obtain ⟨hiff, -⟩ := h "300000 years" 1718452800 (by decide) (by decide)
  have hrange : ((parse "300000 years" 1718452800).getD overall).isOverall = true := by decide
  have hwords : humanize "300000 years" ≠ "overall" := by decide
  exact hwords (hiff.mpr hrange)

end ChatBot.TimeRange
