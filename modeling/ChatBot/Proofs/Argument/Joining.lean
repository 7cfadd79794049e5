/-
  ChatBot.Proofs.Argument.Joining — parts that are joined by a delimiter are read again.

  A text has the words of each part with blanks between them, and between each two parts the
  delimiter with any blanks around it (`Joined`). Splitting finds the delimiter from the left,
  so it finds the one that was put there unless it also begins in the word before: two `a`s
  after a word that ends in one. With a blank between them it cannot (`Clear`).

  Proved: `parseText_joined`, for every delimiter without blanks and every list of parts. The
  inputs read the words of the part at their place joined by one space, and nothing at places
  after the last part, where a flag of the same name is seen.
  - `not_parseText_joined`: what is asked of delimiters that touch words cannot be left out,
    and a flag of the same name is indeed seen.
-/
import ChatBot.Proofs.Argument.Sharing
import ChatBot.Proofs.Text.Split

namespace ChatBot

open Text

/-! ## Texts that are joined -/

/-- Words with blanks between each two. -/
inductive Spaced : List String → List Char → Prop
  | word {w : String} : IsWord w → Spaced [w] w.toList
  | cons {w : String} {ws : List String} {gap cs : List Char} : IsWord w → gap ≠ [] → Blanks gap →
    Spaced ws cs → Spaced (w :: ws) (w.toList ++ (gap ++ cs))

/-- Parts with the delimiter between each two, and blanks before and after it that fit the
    part before. -/
inductive Joined (d : String) (Fits : List String → (before after : List Char) → Prop) :
    List (List String) → List Char → Prop
  | part {p : List String} {cs : List Char} : Spaced p cs → Joined d Fits [p] cs
  | cons {p : List String} {ps : List (List String)} {cs before after rest : List Char} : Spaced p cs →
    Blanks before → Blanks after → Fits p before after → Joined d Fits ps rest →
    Joined d Fits (p :: ps) (cs ++ (before ++ (d.toList ++ (after ++ rest))))

/-- The delimiter touches no word. -/
def Detached (_ : List String) (before after : List Char) : Prop := before ≠ [] ∧ after ≠ []

/-- Where the delimiter touches the word before it, it does not begin in that word, too. -/
def Clear (d : String) (p : List String) (before _after : List Char) : Prop :=
  before = [] → ∀ w, p.getLast? = some w → ¬ d.toList <:+: w.toList ++ d.toList.dropLast

/-- A delimiter and parts in whose words it does not occur. None of them spells a flag. -/
structure Delimits (flags : List (String × Flag)) (d : String) (parts : List (List String)) : Prop where
  isWord : IsWord d
  plain : Flag.spells flags d = false
  words : ∀ p ∈ parts, ∀ w ∈ p, Flag.spells flags w = false ∧ ¬ d.toList <:+: w.toList

variable {d : String} {Fits Fits' : List String → List Char → List Char → Prop} {p : List String}
  {parts : List (List String)} {lead cs trail rest ys : List Char} {flags : List (String × Flag)}

/-! ## The words of a part -/

theorem Spaced.words_append (h : Spaced p cs) (hrest : ∀ c, rest.head? = some c → isBlank c = true) :
    words (cs ++ rest) = p.map String.toList ++ words rest := by
  induction h with
  | word hw => exact Text.words_append hw.toList_ne_nil hw.not_blank hrest
  | @cons w ws gap cs hw hne hgap _ ih =>
    rw [List.append_assoc, List.append_assoc,
      Text.words_append hw.toList_ne_nil hw.not_blank (hgap.head_append hne (cs ++ rest)), words_blank_append hgap, ih]
    rfl

/-- Blanks before and after do not count. -/
theorem Spaced.tidy_eq (h : Spaced p cs) (hlead : Blanks lead) (htrail : Blanks trail) :
    tidy (lead ++ (cs ++ trail)) = (unwords p).toList := by
  rw [tidy, words_blank_append hlead, h.words_append htrail.head, words_blank htrail, List.append_nil, List.map_map]
  exact congrArg (fun ws => (unwords ws).toList) (List.map_id'' (fun _ => String.ofList_toList) p)

theorem Spaced.not_blank (h : Spaced p cs) : isBlankText (unwords p) = false := by
  obtain ⟨w, ws, rfl, hw⟩ : ∃ w ws, p = w :: ws ∧ IsWord w := by
    cases h with
    | word hw => exact ⟨_, _, rfl, hw⟩
    | cons hw => exact ⟨_, _, rfl, hw⟩
  obtain ⟨c, rest, hchars, hc⟩ := hw.exists_head
  rw [isBlankText, toList_unwords_cons, hchars]
  simp [hc]

/-- The delimiter does not begin in a part if it does not begin in its last word. -/
theorem Spaced.free (h : Spaced p cs) (hd : IsWord d) (hwords : ∀ w ∈ p, ¬ d.toList <:+: w.toList)
    (hlast : ∀ w, p.getLast? = some w → Free d.toList w.toList ys) : Free d.toList cs ys := by
  induction h with
  | word hw => exact hlast _ rfl
  | @cons w ws gap cs hw hne hgap hspaced ih =>
    refine free_append.mpr ⟨?_, free_append.mpr ⟨free_blanks hd.toList_ne_nil hd.not_blank hgap _, ?_⟩⟩
    · rw [List.append_assoc]
      exact free_of_end hd.not_blank (hgap.head_append hne (cs ++ ys)) (hwords w List.mem_cons_self)
    · refine ih (fun w hw => hwords w (List.mem_cons_of_mem _ hw)) fun w hw => hlast w ?_
      cases ws with
      | nil => cases hw
      | cons w' ws => rwa [List.getLast?_cons_cons]

/-- Nor in the blanks around the part. -/
theorem Spaced.free_between {after : List Char} (h : Spaced p cs) (hd : IsWord d)
    (hwords : ∀ w ∈ p, ¬ d.toList <:+: w.toList) (hlead : Blanks lead) (hafter : Blanks after)
    (hlast : ∀ w, p.getLast? = some w → Free d.toList w.toList (after ++ ys)) :
    Free d.toList (lead ++ (cs ++ after)) ys := by
  refine free_append.mpr ⟨free_blanks hd.toList_ne_nil hd.not_blank hlead _, free_append.mpr ⟨h.free hd hwords hlast, ?_⟩⟩
  exact free_blanks hd.toList_ne_nil hd.not_blank hafter _

/-! ## The pieces of a joined text -/

theorem Joined.mono (hfits : ∀ p before after, Fits p before after → Fits' p before after) (h : Joined d Fits parts cs) :
    Joined d Fits' parts cs := by
  induction h with
  | part hp => exact .part hp
  | cons hp hbefore hafter hfit _ ih => exact .cons hp hbefore hafter (hfits _ _ _ hfit) ih

/-- Where the delimiter touches no word, it is a word of the text. -/
theorem Joined.mem_words (h : Joined d Detached parts cs) (hd : IsWord d) (htrail : Blanks trail)
    {w : List Char} (hw : w ∈ words (cs ++ trail)) : w = d.toList ∨ w ∈ parts.flatten.map String.toList := by
  induction h with
  | part hp =>
    rw [hp.words_append htrail.head, words_blank htrail, List.append_nil] at hw
    exact .inr (by rwa [List.flatten_singleton])
  | @cons p ps cs before after rest hp hbefore hafter hfit _ ih =>
    have hdelimiter : words (d.toList ++ (after ++ (rest ++ trail))) = d.toList :: words (rest ++ trail) := by
      rw [Text.words_append hd.toList_ne_nil hd.not_blank (hafter.head_append hfit.2 _), words_blank_append hafter]
    rw [List.append_assoc, List.append_assoc, List.append_assoc, List.append_assoc,
      hp.words_append (hbefore.head_append hfit.1 _), words_blank_append hbefore, hdelimiter] at hw
    rw [List.flatten_cons, List.map_append, List.mem_append]
    rcases List.mem_append.mp hw with hw | hw
    · exact .inr (.inl hw)
    · rcases List.mem_cons.mp hw with rfl | hw
      · exact .inl rfl
      · exact (ih hw).imp_right .inr

theorem Joined.mem_wordsOf {text w : String} (h : Joined d Detached parts cs) (hd : IsWord d) (hlead : Blanks lead)
    (htrail : Blanks trail) (written : text.toList = lead ++ (cs ++ trail)) (hw : w ∈ wordsOf text) :
    w = d ∨ w ∈ parts.flatten := by
  obtain ⟨v, hv, rfl⟩ := List.mem_map.mp hw
  rw [written, words_blank_append hlead] at hv
  rcases h.mem_words hd htrail hv with rfl | hv
  · exact .inl String.ofList_toList
  · obtain ⟨u, hu, rfl⟩ := List.mem_map.mp hv
    exact .inr (by rwa [String.ofList_toList])

/-- The pieces are the parts, with blanks around them. -/
theorem Joined.map_tidy_splitOn (h : Joined d (Clear d) parts cs) (hd : IsWord d)
    (hwords : ∀ p ∈ parts, ∀ w ∈ p, ¬ d.toList <:+: w.toList) (hlead : Blanks lead)
    (htrail : Blanks trail) :
    (splitOn d.toList (lead ++ (cs ++ trail))).map tidy = parts.map fun p => (unwords p).toList := by
  induction h generalizing lead with
  | @part p cs hp =>
    have hpart := hwords p List.mem_cons_self
    have hfree : Free d.toList (lead ++ (cs ++ trail)) [] := by
      refine hp.free_between hd hpart hlead htrail fun w hw =>
        free_of_end hd.not_blank ?_ (hpart w (List.mem_of_getLast? hw))
      rw [List.append_nil]
      exact htrail.head
    have hsplit := splitOn_free hfree
    rw [List.append_nil] at hsplit
    rw [hsplit]
    simp [splitOn, splitAt, hp.tidy_eq hlead htrail]
  | @cons p ps cs before after rest hp hbefore hafter hfit _ ih =>
    have hpart := hwords p List.mem_cons_self
    have hfree : Free d.toList (lead ++ (cs ++ before)) (d.toList ++ (after ++ (rest ++ trail))) := by
      refine hp.free_between hd hpart hlead hbefore fun w hw => ?_
      by_cases hnil : before = []
      · rw [hnil]
        exact free_of_delimiter (hfit hnil w hw) _
      · exact free_of_end hd.not_blank (hbefore.head_append hnil _) (hpart w (List.mem_of_getLast? hw))
    have hnext := ih (fun q hq => hwords q (List.mem_cons_of_mem p hq)) hafter
    have hsplit := splitOn_free hfree
    rw [splitOn_append hd.toList_ne_nil, List.modifyHead_cons, List.append_nil] at hsplit
    have htext : lead ++ (cs ++ (before ++ (d.toList ++ (after ++ rest))) ++ trail) =
        lead ++ (cs ++ before) ++ (d.toList ++ (after ++ (rest ++ trail))) := by
      simp only [List.append_assoc]
    rw [htext, hsplit, List.map_cons, List.map_cons, hp.tidy_eq hlead hbefore, hnext]

/-- The trimmed pieces of the words joined by one space are the words of the parts, joined so. -/
theorem Joined.pieces_eq {text : String} (h : Joined d (Clear d) parts cs) (hd : IsWord d)
    (hwords : ∀ p ∈ parts, ∀ w ∈ p, ¬ d.toList <:+: w.toList) (hlead : Blanks lead)
    (htrail : Blanks trail) (written : text.toList = lead ++ (cs ++ trail)) :
    ((splitOn d.toList (unwords (wordsOf text)).toList).map fun piece => String.ofList (trim piece)) =
      parts.map unwords := by
  calc ((splitOn d.toList (unwords (wordsOf text)).toList).map fun piece => String.ofList (trim piece))
      = ((splitOn d.toList (tidy text.toList)).map trim).map String.ofList := by rw [List.map_map]; rfl
    _ = ((splitOn d.toList text.toList).map tidy).map String.ofList := by
        rw [map_trim_splitOn_tidy hd.toList_ne_nil hd.not_blank]
    _ = (parts.map fun p => (unwords p).toList).map String.ofList := by
        rw [written, h.map_tidy_splitOn hd hwords hlead htrail]
    _ = parts.map unwords := by
        rw [List.map_map]
        exact List.map_congr_left fun p _ => String.ofList_toList

theorem Joined.not_blank (h : Joined d Fits parts cs) : ∀ p ∈ parts, isBlankText (unwords p) = false := by
  induction h with
  | part hp => simpa using hp.not_blank
  | cons hp _ _ _ _ ih => exact List.forall_mem_cons.mpr ⟨hp.not_blank, ih⟩

/-! ## What the inputs read -/

/-- No flag is taken out of a text whose words are the delimiter, of the parts, or spell none. -/
theorem Delimits.plainWords_eq {text : String} (h : Delimits flags d parts)
    (hplain : ∀ w ∈ wordsOf text, w = d ∨ w ∈ parts.flatten ∨ Flag.spells flags w = false) :
    Flag.plainWords flags text = wordsOf text := by
  refine List.filter_eq_self.mpr fun w hw => ?_
  rw [Bool.not_eq_true']
  rcases hplain w hw with rfl | hpart | hspells
  · exact h.plain
  · obtain ⟨p, hp, hw⟩ := List.mem_flatten.mp hpart
    exact (h.words p hp w hw).1
  · exact hspells

/-- Reads the piece at a place between a delimiter. -/
def InputSpec.piece (d : String) (place : UInt64) : InputSpec := ⟨.single place, some d, none, none, none, false⟩

theorem InputSpec.read_piece {now : Instant} {place : UInt64} {ws : List String} (hd : d ≠ "")
    (hpieces : ((Text.splitOn d.toList (unwords ws).toList).map fun piece => String.ofList (trim piece)) =
      parts.map unwords)
    (hblank : ∀ p ∈ parts, isBlankText (unwords p) = false) :
    (piece d place).read now ws = (parts[place.toNat]?).map fun p => .text (unwords p) := by
  have hitems : (piece d place).items ws = parts.map unwords :=
    (if_neg fun hempty => hd (String.isEmpty_iff.mp hempty)).trans hpieces
  have hcapture : (piece d place).capture ws = (parts[place.toNat]?).map unwords := by
    change ((piece d place).items ws)[place.toNat]?.filter _ = _
    rw [hitems, List.getElem?_map]
    cases hp : parts[place.toNat]? with
    | none => rfl
    | some p => simp [hblank p (List.mem_of_getElem? hp)]
  have hread : (piece d place).read now ws = ((piece d place).capture ws).map .text := by
    rw [read]
    cases (piece d place).capture ws <;> rfl
  rw [hread, hcapture, Option.map_map]
  rfl

namespace Schema

/-- Inputs that read the pieces between a delimiter, each at its place. -/
def splitting (d : String) (inputs : List (String × UInt64)) (flags : List (String × Flag)) : Schema where
  inputs := inputs.map fun input => (input.1, .piece d input.2)
  mentions := []
  flags := flags

variable {now : Instant} {text : String} {inputs : List (String × UInt64)} {input : String × UInt64}

theorem inputWords_nil (words : List String) : inputWords words [] = words := by
  have hall : (words.zipIdx.filter fun w => !([] : List Nat).contains w.2) = words.zipIdx :=
    List.filter_eq_self.mpr fun _ _ => rfl
  rw [inputWords, hall, List.zipIdx_map_fst]

theorem slotValue?_splitting {ws : List String} (h : input ∈ inputs)
    (same : ∀ other ∈ inputs, other.1 = input.1 → other.2 = input.2) :
    (splitting d inputs flags).slotValue? now ws input.1 = (InputSpec.piece d input.2).read now ws := by
  have hwords : inputWords ws (usedUp (sharing (splitting d inputs flags).mentions ws)) = ws := inputWords_nil ws
  rw [slotValue?_eq, get?_told_eq_none List.not_mem_nil, Option.or_none, hwords]
  have hmem : (input.1, InputSpec.piece d input.2) ∈ (splitting d inputs flags).inputs := List.mem_map.mpr ⟨input, h, rfl⟩
  refine get?_inputValues now ws hmem fun other hother hname => ?_
  obtain ⟨i, hi, rfl⟩ := List.mem_map.mp hother
  exact congrArg (InputSpec.piece d) (same i hi hname)

/-- Inputs read the words of the part at their place, joined by one space, and nothing at
    places after the last part. A delimiter that touches no word is always found; one that
    touches words is, where it does not begin in the word before, and where no word of the
    text that comes of it spells a flag. Where an input reads nothing, a flag of its name is seen. -/
theorem parseText_joined (flags : List (String × Flag)) (d : String) (parts : List (List String))
    (inputs : List (String × UInt64)) (now : Instant) (text : String) (lead cs trail : List Char)
    (delimits : Delimits flags d parts) (blankLead : Blanks lead) (blankTrail : Blanks trail)
    (written : text.toList = lead ++ (cs ++ trail))
    (joined : Joined d Detached parts cs ∨ Joined d (Clear d) parts cs ∧
      ∀ w ∈ wordsOf text, w = d ∨ w ∈ parts.flatten ∨ Flag.spells flags w = false) :
    ∀ input ∈ inputs, (∀ other ∈ inputs, other.1 = input.1 → other.2 = input.2) →
      (∀ p, parts[input.2.toNat]? = some p →
        ((splitting d inputs flags).parseText now text).get? input.1 = some (.text (unwords p))) ∧
      (parts.length ≤ input.2.toNat → ((splitting d inputs flags).parseText now text).get? input.1 = none ∨
        input.1 ∈ (Flag.effective flags).map Prod.fst ∧
          ∃ isSet, ((splitting d inputs flags).parseText now text).get? input.1 = some (.flag isSet)) := by
  intro input hinput same
  obtain ⟨hjoined, hplain⟩ : Joined d (Clear d) parts cs ∧
      ∀ w ∈ wordsOf text, w = d ∨ w ∈ parts.flatten ∨ Flag.spells flags w = false := by
    rcases joined with hjoined | hjoined
    · refine ⟨hjoined.mono fun p before after hfit hnil => absurd hnil hfit.1, fun w hw => ?_⟩
      rw [← or_assoc]
      exact .inl (hjoined.mem_wordsOf delimits.isWord blankLead blankTrail written hw)
    · exact hjoined
  have hwords : Flag.plainWords flags text = wordsOf text := delimits.plainWords_eq hplain
  have hread : (InputSpec.piece d input.2).read now (wordsOf text) =
      (parts[input.2.toNat]?).map fun p => .text (unwords p) := by
    refine InputSpec.read_piece delimits.isWord.ne_empty ?_ hjoined.not_blank
    exact hjoined.pieces_eq delimits.isWord (fun p hp w hw => (delimits.words p hp w hw).2) blankLead blankTrail written
  have hflags : (splitting d inputs flags).flags = flags := rfl
  rw [get?_parseText, hflags, hwords, slotValue?_splitting hinput same, hread]
  constructor
  · intro p hp
    rw [hp]
    rfl
  · intro hplace
    rw [List.getElem?_eq_none hplace, Option.map_none, Option.none_or]
    by_cases hname : input.1 ∈ (Flag.effective flags).map Prod.fst
    · exact .inr ⟨hname, flagValue?_eq_flag text hname⟩
    · exact .inl (flagValue?_eq_none hname)

/-! ### Delimiters that touch words -/

/-- What splitting would do to every text that is joined so: undo it, and leave the inputs at
    later places absent. -/
def UndoesJoining (Fits : String → List String → List Char → List Char → Prop) : Prop :=
  ∀ (flags : List (String × Flag)) (d : String) (parts : List (List String)) (inputs : List (String × UInt64))
    (now : Instant) (text : String), Delimits flags d parts → Joined d (Fits d) parts text.toList →
      (inputs.map Prod.fst).Nodup → ∀ input ∈ inputs, ((splitting d inputs flags).parseText now text).get? input.1 =
        (parts[input.2.toNat]?).map fun p => .text (unwords p)

namespace Songs

def songs : List (List String) := [["Red", "Velvet"], ["Feel", "My", "Rhythm"], ["live"]]

def slots : List (String × UInt64) := [("artist", 0), ("song", 1), ("note", 2), ("year", 3)]

/-- The first delimiter touches two words, the second none. -/
def message : String := "  Red  Velvet::Feel My Rhythm :: live"

theorem delimits : Delimits [] "::" songs := ⟨isWord_of_any (by decide) (by decide), by decide, by decide⟩

theorem joined : ∃ cs, Joined "::" (Clear "::") songs cs ∧ message.toList = [' ', ' '] ++ (cs ++ []) := by
  have hblank : Blanks [' '] := List.all_eq_true.mp rfl
  have hred : Spaced ["Red", "Velvet"] ("Red".toList ++ ([' ', ' '] ++ "Velvet".toList)) :=
    .cons (isWord_of_any (by decide) (by decide)) (by decide) (List.all_eq_true.mp rfl)
      (.word (isWord_of_any (by decide) (by decide)))
  have hmy : Spaced ["My", "Rhythm"] ("My".toList ++ ([' '] ++ "Rhythm".toList)) :=
    .cons (isWord_of_any (by decide) (by decide)) (by decide) hblank (.word (isWord_of_any (by decide) (by decide)))
  have hfeel : Spaced ["Feel", "My", "Rhythm"] ("Feel".toList ++ ([' '] ++ ("My".toList ++ ([' '] ++ "Rhythm".toList)))) :=
    .cons (isWord_of_any (by decide) (by decide)) (by decide) hblank hmy
  have hlive : Spaced ["live"] _ := .word (isWord_of_any (by decide) (by decide))
  have htouches : Clear "::" ["Red", "Velvet"] [] [] := by
    rintro - w hw
    cases hw
    decide
  have hstands : Clear "::" ["Feel", "My", "Rhythm"] [' '] [' '] := fun h => by cases h
  have hrest : Joined "::" (Clear "::") [["Feel", "My", "Rhythm"], ["live"]] _ :=
    .cons hfeel hblank hblank hstands (.part hlive)
  refine ⟨_, .cons hred (List.forall_mem_nil _) (List.forall_mem_nil _) htouches hrest, ?_⟩
  rfl

end Songs

open Songs in
theorem parseText_joined_songs : Delimits [] "::" songs ∧
    ((splitting "::" slots []).parseText 0 message).get? "song" = some (.text "Feel My Rhythm") ∧
    ((splitting "::" slots []).parseText 0 message).get? "year" = none := by
  obtain ⟨cs, hjoined, hwritten⟩ := joined
  have hplain : ∀ w ∈ wordsOf message, w = "::" ∨ w ∈ songs.flatten ∨ Flag.spells [] w = false := by decide
  have hread := parseText_joined [] "::" songs slots 0 message _ cs [] delimits (List.all_eq_true.mp rfl)
    (List.forall_mem_nil _) hwritten (.inr ⟨hjoined, hplain⟩)
  obtain ⟨hsong, -⟩ := hread ("song", 1) (by decide) (by decide)
  obtain ⟨-, hyear⟩ := hread ("year", 3) (by decide) (by decide)
  refine ⟨delimits, hsong _ rfl, (hyear (by decide)).resolve_right fun h => absurd h.1 (by decide)⟩

/-- Two words, the delimiter right after the first. -/
theorem joined_pair {x y : String} (after : List Char) (hx : IsWord x) (hy : IsWord y) (hafter : Blanks after)
    (hfits : Fits [x] [] after) : Joined d Fits [[x], [y]] (x.toList ++ (d.toList ++ (after ++ y.toList))) := by
  have hjoined : Joined d Fits [[x], [y]] (x.toList ++ ([] ++ (d.toList ++ (after ++ y.toList)))) :=
    .cons (.word hx) (List.forall_mem_nil _) hafter hfits (.part (.word hy))
  exact hjoined

/-- With `aa` between `a` and `b` the delimiter is found one place too early. -/
theorem not_undoesJoining_touching : ¬ UndoesJoining fun _ _ _ _ => True := by
  intro h
  have hjoined : Joined "aa" (fun _ _ _ => True) [["a"], ["b"]] "aaab".toList :=
    joined_pair [] (isWord_of_any (by decide) (by decide)) (isWord_of_any (by decide) (by decide))
      (List.forall_mem_nil _) trivial
  have hdelimits : Delimits [] "aa" [["a"], ["b"]] :=
    ⟨isWord_of_any (by decide) (by decide), by decide, by decide⟩
  have hread := h [] "aa" _ [("artist", 0), ("album", 1)] 0 "aaab" hdelimits hjoined (by decide) ("artist", 0) (by decide)
  have hnone : ((splitting "aa" [("artist", 0), ("album", 1)] []).parseText 0 "aaab").get? "artist" = none := rfl
  rw [hnone] at hread
  cases hread

/-- With `-debug` right after `-` a flag is spelled. -/
theorem not_undoesJoining_clear : ¬ UndoesJoining Clear := by
  intro h
  have hclear : Clear "-debug" ["-"] [] [' '] := by
    rintro - w hw
    cases hw
    decide
  have hjoined : Joined "-debug" (Clear "-debug") [["-"], ["b"]] "--debug b".toList :=
    joined_pair [' '] (isWord_of_any (by decide) (by decide)) (isWord_of_any (by decide) (by decide))
      (List.all_eq_true.mp rfl) hclear
  have hdelimits : Delimits [] "-debug" [["-"], ["b"]] :=
    ⟨isWord_of_any (by decide) (by decide), by decide, by decide⟩
  have hread := h [] "-debug" _ [("artist", 0)] 0 "--debug b" hdelimits hjoined (by decide) ("artist", 0) (by decide)
  have hb : ((splitting "-debug" [("artist", 0)] []).parseText 0 "--debug b").get? "artist" = some (.text "b") := rfl
  have hsame : "b" = unwords ["-"] := ArgValue.text.inj (Option.some.inj (hb.symm.trans hread))
  exact absurd hsame (by decide)

/-- A delimiter that touches words may be found in the word before or spell a flag with it,
    and an input that is named as a flag is never absent. -/
theorem not_parseText_joined : ¬ UndoesJoining (fun _ _ _ _ => True) ∧ ¬ UndoesJoining Clear ∧
    ¬ UndoesJoining fun _ => Detached := by
  refine ⟨not_undoesJoining_touching, not_undoesJoining_clear, fun h => ?_⟩
  have hjoined : Joined "|" Detached [["a"]] "a".toList := .part (.word (isWord_of_any (by decide) (by decide)))
  have hdelimits : Delimits [] "|" [["a"]] := ⟨isWord_of_any (by decide) (by decide), by decide, by decide⟩
  have hread := h [] "|" _ [("debug", 1)] 0 "a" hdelimits hjoined (by decide) ("debug", 1) (by decide)
  have hflag : ((splitting "|" [("debug", 1)] []).parseText 0 "a").get? "debug" = some (.flag false) := rfl
  rw [hflag] at hread
  cases hread

end Schema

end ChatBot
