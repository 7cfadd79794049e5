/-
  ChatBot.Proofs.Text.Split — the pieces of a text whose words are joined by one space.

  A text is split one character after another (`splitOn_append`, `splitOn_cons`): where the
  delimiter is found a new piece begins, and else the piece goes on.

  Joining the words of a text by one space (`tidy`) drops blanks at its ends and makes one
  space of all others. A delimiter without blanks does not see the difference: the pieces of
  the tidy text are the pieces of the text, up to blanks (`map_trim_splitOn_tidy`).
-/
import ChatBot.Proofs.Text.Words
import ChatBot.Text.Split

namespace ChatBot.Text

variable {d w xs ys cs piece : List Char} {pieces : List (List Char)} {c : Char} {s : String} {ws : List String}

/-! ## Splitting -/

theorem splitAt_skip (skip : Nat) (piece cs : List Char) : splitAt d skip piece cs = splitAt d 0 piece (cs.drop skip) := by
  induction cs generalizing skip with
  | nil => rw [splitAt, List.drop_nil, splitAt]
  | cons c cs ih => cases skip with
    | zero => rfl
    | succ skip => rw [splitAt, ih, List.drop_succ_cons]

theorem splitAt_piece (piece cs : List Char) :
    splitAt d 0 piece cs = (splitOn d cs).modifyHead (piece.reverse ++ ·) := by
  induction cs generalizing piece with
  | nil => simp [splitOn, splitAt]
  | cons c cs ih =>
    rw [splitOn, splitAt, splitAt]
    split
    · simp
    · rw [ih, ih [c], List.modifyHead_modifyHead]
      congr 1
      funext rest
      simp

/-- What has no blank does not begin with one. -/
theorem not_prefix_blank (hne : d ≠ []) (hd : ∀ c ∈ d, isBlank c = false) (hc : isBlank c = true) (cs : List Char) :
    ¬ d <+: c :: cs := by
  intro h
  obtain ⟨a, rest, rfl⟩ := List.exists_cons_of_ne_nil hne
  rw [← (List.cons_prefix_cons.mp h).1, hd a List.mem_cons_self] at hc
  cases hc

/-- Where the delimiter begins, a piece ends. -/
theorem splitOn_append (hd : d ≠ []) (ys : List Char) : splitOn d (d ++ ys) = [] :: splitOn d ys := by
  obtain ⟨c, rest, rfl⟩ := List.exists_cons_of_ne_nil hd
  have hbegins : (c :: rest).isPrefixOf (c :: (rest ++ ys)) = true :=
    List.isPrefixOf_iff_prefix.mpr (List.prefix_append (c :: rest) ys)
  rw [List.cons_append, splitOn, splitAt, if_pos hbegins, splitAt_skip, List.length_cons, Nat.add_sub_cancel,
    List.drop_left]
  rfl

/-- Anywhere else it goes on. -/
theorem splitOn_cons (h : ¬ d <+: c :: cs) : splitOn d (c :: cs) = (splitOn d cs).modifyHead (c :: ·) := by
  rw [splitOn, splitAt, if_neg fun hbegins => h (List.isPrefixOf_iff_prefix.mp hbegins), splitAt_piece]
  rfl

/-- What holds of the rest of a text after a delimiter or a character holds of the text. -/
theorem delimited_induction {P : List Char → Prop} (hd : d ≠ []) (nil : P []) (delimiter : ∀ ys, P ys → P (d ++ ys))
    (other : ∀ c cs, ¬ d <+: c :: cs → P cs → P (c :: cs)) (cs : List Char) : P cs := by
  induction hlength : cs.length using Nat.strongRecOn generalizing cs with
  | ind n ih =>
    cases cs with
    | nil => exact nil
    | cons c cs =>
      by_cases hbegins : d <+: c :: cs
      · obtain ⟨ys, hys⟩ := hbegins
        have hpos := List.length_pos_iff.mpr hd
        rw [← hys, List.length_append] at hlength
        rw [← hys]
        exact delimiter ys (ih ys.length (by omega) ys rfl)
      · rw [List.length_cons] at hlength
        exact other c cs hbegins (ih cs.length (by omega) cs rfl)

/-- The first piece is the text up to some place. -/
theorem exists_splitOn (hd : d ≠ []) (cs : List Char) : ∃ piece pieces, splitOn d cs = piece :: pieces ∧ piece <+: cs := by
  induction cs using delimited_induction hd with
  | nil => exact ⟨[], [], rfl, List.prefix_refl []⟩
  | delimiter ys => exact ⟨[], _, splitOn_append hd ys, List.nil_prefix⟩
  | other c cs hbegins ih =>
    obtain ⟨piece, pieces, hsplit, hpiece⟩ := ih
    exact ⟨c :: piece, pieces, by rw [splitOn_cons hbegins, hsplit]; rfl, List.cons_prefix_cons.mpr ⟨rfl, hpiece⟩⟩

/-! ## Trimming -/

theorem trim_cons_blank (hc : isBlank c = true) (cs : List Char) : trim (c :: cs) = trim cs := by
  rw [trim, trimStart, List.dropWhile_cons_of_pos hc]
  rfl

theorem trim_of_head (h : ∀ c, cs.head? = some c → isBlank c = false) : trim cs = trimEnd cs := by
  cases cs with
  | nil => rfl
  | cons c cs =>
    have hc := h c rfl
    rw [trim, trimStart, List.dropWhile_cons_of_neg (by rw [hc]; exact Bool.false_ne_true)]

theorem trimEnd_cons (c : Char) (cs : List Char) :
    trimEnd (c :: cs) = if trimEnd cs = [] ∧ isBlank c = true then [] else c :: trimEnd cs := by
  rw [trimEnd, trimEnd, List.reverse_cons, List.dropWhile_append]
  by_cases hcs : cs.reverse.dropWhile isBlank = []
  · cases hc : isBlank c <;> simp [hcs, hc]
  · simp [hcs]

/-! ## Words joined by one space -/

/-- The text with its words joined by one space. -/
def tidy (cs : List Char) : List Char := (unwords ((words cs).map String.ofList)).toList

theorem toList_unwords_cons (s : String) (ws : List String) :
    (unwords (s :: ws)).toList = s.toList ++ if ws = [] then [] else ' ' :: (unwords ws).toList := by
  cases ws with
  | nil => rw [unwords, String.intercalate_singleton, if_pos rfl, List.append_nil]
  | cons s' ws =>
    rw [unwords, String.intercalate_cons_cons, String.toList_append, String.toList_append, List.append_assoc,
      if_neg (List.cons_ne_nil s' ws)]
    rfl

theorem tidy_cons_blank (hc : isBlank c = true) (cs : List Char) : tidy (c :: cs) = tidy cs := by
  rw [tidy, words_cons_blank hc, tidy]

theorem tidy_eq_nil : tidy cs = [] ↔ words cs = [] := by
  constructor
  · intro h
    cases hwords : words cs with
    | nil => rfl
    | cons w ws =>
      rw [tidy, hwords, List.map_cons, toList_unwords_cons, String.toList_ofList] at h
      exact absurd (List.append_eq_nil_iff.mp h).1 (mem_words (hwords ▸ List.mem_cons_self)).1
  · intro h
    rw [tidy, h]
    rfl

/-- A character that ends a word is followed by a space, unless no word is left. -/
theorem tidy_cons_end (hc : isBlank c = false) (hrest : ∀ e, cs.head? = some e → isBlank e = true) :
    tidy (c :: cs) = c :: if tidy cs = [] then [] else ' ' :: tidy cs := by
  have hwords : words (c :: cs) = [c] :: words cs := words_append (w := [c]) (List.cons_ne_nil c []) (by simp [hc]) hrest
  rw [tidy, hwords, List.map_cons, toList_unwords_cons, String.toList_ofList]
  simp only [List.map_eq_nil_iff, tidy_eq_nil]
  rfl

theorem words_cons_next {e : Char} (hc : isBlank c = false) (he : isBlank e = false) (cs : List Char) :
    ∃ w ws, words (e :: cs) = w :: ws ∧ words (c :: e :: cs) = (c :: w) :: ws := by
  obtain ⟨first, others, hsplit⟩ := List.exists_cons_of_ne_nil (List.splitOnP_ne_nil isBlank cs)
  refine ⟨e :: first, others.filter (!·.isEmpty), ?_, ?_⟩
  · simp [words, List.splitOnP_cons_eq_if_modifyHead, he, hsplit]
  · simp [words, List.splitOnP_cons_eq_if_modifyHead, hc, he, hsplit]

/-- Where the first word of a text stands. -/
theorem words_eq_cons {later : List (List Char)} (h : words cs = w :: later) : ∃ blanks rest,
    cs = blanks ++ (w ++ rest) ∧ (∀ c ∈ blanks, isBlank c = true) ∧
      (∀ c, rest.head? = some c → isBlank c = true) ∧ words rest = later := by
  induction cs generalizing w with
  | nil => cases words_nil.symm.trans h
  | cons c cs ih =>
    cases hc : isBlank c with
    | true =>
      rw [words_cons_blank hc] at h
      obtain ⟨blanks, rest, rfl, hblanks, hrest⟩ := ih h
      exact ⟨c :: blanks, rest, rfl, List.forall_mem_cons.mpr ⟨hc, hblanks⟩, hrest⟩
    | false =>
      by_cases hcs : ∀ e, cs.head? = some e → isBlank e = true
      · have hword : words ([c] ++ cs) = [c] :: words cs :=
          words_append (List.cons_ne_nil c []) (by simpa using hc) hcs
        obtain ⟨rfl, rfl⟩ := List.cons.inj (hword.symm.trans h)
        exact ⟨[], cs, rfl, by simp, hcs, rfl⟩
      · -- the word goes on
        obtain ⟨e, es, rfl, he⟩ : ∃ e es, cs = e :: es ∧ isBlank e = false := by
          cases cs with
          | nil => exact absurd (by simp) hcs
          | cons e es => exact ⟨e, es, rfl, by simpa using hcs⟩
        obtain ⟨w', ws', hwords, hnext⟩ := words_cons_next hc he es
        obtain ⟨rfl, rfl⟩ := List.cons.inj (hnext.symm.trans h)
        obtain ⟨blanks, rest, hsplit, hblanks, hrest⟩ := ih hwords
        obtain rfl : blanks = [] := by
          cases blanks with
          | nil => rfl
          | cons b bs =>
            obtain ⟨rfl, -⟩ := List.cons.inj hsplit
            exact absurd (hblanks e List.mem_cons_self) (by simp [he])
        exact ⟨[], rest, by rw [hsplit]; rfl, by simp, hrest⟩

/-- A character within a word is followed by the rest of the word. -/
theorem tidy_cons_next (hc : isBlank c = false) (hrest : ∀ e, cs.head? = some e → isBlank e = false) :
    tidy (c :: cs) = c :: tidy cs := by
  cases cs with
  | nil => exact tidy_cons_end hc (by simp)
  | cons e cs =>
    obtain ⟨w, ws, hwords, hwords'⟩ := words_cons_next hc (hrest e rfl) cs
    rw [tidy, tidy, hwords, hwords', List.map_cons, List.map_cons, toList_unwords_cons, toList_unwords_cons]
    simp

/-- A text begins with a blank, or it does not. -/
theorem head_blank_or (cs : List Char) :
    (∀ c, cs.head? = some c → isBlank c = true) ∨ ∀ c, cs.head? = some c → isBlank c = false := by
  cases cs with
  | nil => exact .inl (by simp)
  | cons c cs => cases hc : isBlank c <;> simp [hc]

theorem tidy_head (cs : List Char) : ∀ c, (tidy cs).head? = some c → isBlank c = false := by
  induction cs with
  | nil => simp [tidy, words_nil, unwords]
  | cons c cs ih =>
    cases hc : isBlank c with
    | true =>
      rw [tidy_cons_blank hc]
      exact ih
    | false =>
      rcases head_blank_or cs with hrest | hrest
      · rw [tidy_cons_end hc hrest]
        simp [hc]
      · rw [tidy_cons_next hc hrest]
        simp [hc]

/-- A word stays, and at most a space comes after it. -/
theorem tidy_append (hne : w ≠ []) (hw : ∀ c ∈ w, isBlank c = false) (cs : List Char) :
    tidy (w ++ cs) = w ++ tidy cs ∨ tidy (w ++ cs) = w ++ ' ' :: tidy cs := by
  induction w with
  | nil => exact absurd rfl hne
  | cons c w ih =>
    obtain ⟨hc, hw⟩ := List.forall_mem_cons.mp hw
    cases w with
    | nil =>
      rcases head_blank_or cs with hrest | hrest
      · rw [List.singleton_append, tidy_cons_end hc hrest]
        split
        · rename_i hnil
          exact .inl (by rw [hnil]; rfl)
        · exact .inr rfl
      · exact .inl (tidy_cons_next hc hrest)
    | cons e w =>
      have hnext : tidy (c :: (e :: w ++ cs)) = c :: tidy (e :: w ++ cs) :=
        tidy_cons_next hc (by simpa using hw e List.mem_cons_self)
      rw [List.cons_append, hnext]
      rcases ih (List.cons_ne_nil e w) hw with h | h
      · exact .inl (by rw [h]; rfl)
      · exact .inr (by rw [h]; rfl)

/-! ## The pieces of a tidy text -/

/-- What has no blank and begins a tidy text begins the text. -/
theorem prefix_of_prefix_tidy (hd : ∀ c ∈ d, isBlank c = false) (hhead : ∀ c, cs.head? = some c → isBlank c = false)
    (h : d <+: tidy cs) : d <+: cs := by
  induction d generalizing cs with
  | nil => exact List.nil_prefix
  | cons a d ih =>
    obtain ⟨-, hd⟩ := List.forall_mem_cons.mp hd
    cases cs with
    | nil => simp [tidy, words_nil, unwords] at h
    | cons c cs =>
      have hc := hhead c rfl
      rcases head_blank_or cs with hrest | hrest
      · rw [tidy_cons_end hc hrest] at h
        obtain ⟨rfl, hspace⟩ := List.cons_prefix_cons.mp h
        cases d with
        | nil => exact List.cons_prefix_cons.mpr ⟨rfl, List.nil_prefix⟩
        | cons b d =>
          split at hspace
          · exact absurd (List.prefix_nil.mp hspace) (List.cons_ne_nil b d)
          · exact absurd hspace (not_prefix_blank (List.cons_ne_nil b d) hd (by decide) _)
      · rw [tidy_cons_next hc hrest] at h
        obtain ⟨rfl, hnext⟩ := List.cons_prefix_cons.mp h
        exact List.cons_prefix_cons.mpr ⟨rfl, ih hd hrest hnext⟩

theorem prefix_head {P : Char → Prop} (h : piece <+: cs) (hcs : ∀ c, cs.head? = some c → P c) :
    ∀ c, piece.head? = some c → P c := by
  obtain ⟨rest, rfl⟩ := h
  intro c hc
  exact hcs c (by rw [List.head?_append, hc]; rfl)

/-- The first character of a text may be blank, begin a delimiter or do neither; here it does neither. -/
theorem map_trim_splitOn_tidy_cons (hne : d ≠ []) (hd : ∀ c ∈ d, isBlank c = false) (hc : isBlank c = false)
    (hbegins : ¬ d <+: c :: cs) (ih : (splitOn d (tidy cs)).map trim = (splitOn d cs).map tidy) :
    (splitOn d (tidy (c :: cs))).map trim = (splitOn d (c :: cs)).map tidy := by
  have hbegins' : ¬ d <+: tidy (c :: cs) := fun h => hbegins (prefix_of_prefix_tidy hd (by simpa using hc) h)
  obtain ⟨piece, pieces, hsplit, hpiece⟩ := exists_splitOn hne cs
  obtain ⟨piece', pieces', hsplit', hpiece'⟩ := exists_splitOn hne (tidy cs)
  rw [hsplit, hsplit', List.map_cons, List.map_cons, List.cons.injEq,
    trim_of_head (prefix_head hpiece' (tidy_head cs))] at ih
  obtain ⟨hfirst, hothers⟩ := ih
  have hcut {rest : List Char} : trim (c :: rest) = c :: trimEnd rest := by
    rw [trim_of_head (by simpa using hc), trimEnd_cons, hc, if_neg (by simp)]
  rw [splitOn_cons hbegins, hsplit, List.modifyHead_cons, List.map_cons]
  rcases head_blank_or cs with hrest | hrest
  · rw [tidy_cons_end hc hrest] at hbegins' ⊢
    rw [tidy_cons_end hc (prefix_head hpiece hrest), ← hothers, ← hfirst]
    by_cases hnil : tidy cs = []
    · rw [if_pos hnil] at hbegins' ⊢
      rw [hnil] at hsplit'
      cases hsplit'
      rw [splitOn_cons hbegins']
      simp [splitOn, splitAt, hcut, trimEnd]
    · rw [if_neg hnil] at hbegins' ⊢
      rw [splitOn_cons hbegins', splitOn_cons (not_prefix_blank hne hd (by decide) _), hsplit', List.modifyHead_cons,
        List.modifyHead_cons, List.map_cons, hcut, trimEnd_cons]
      simp only [show isBlank ' ' = true by decide, and_true]
  · rw [tidy_cons_next hc hrest] at hbegins' ⊢
    rw [splitOn_cons hbegins', hsplit', List.modifyHead_cons, List.map_cons, hcut, hothers, hfirst,
      tidy_cons_next hc (prefix_head hpiece hrest)]

/-- The trimmed pieces of the tidy text are the pieces of the text, each made tidy. -/
theorem map_trim_splitOn_tidy (hne : d ≠ []) (hd : ∀ c ∈ d, isBlank c = false) (cs : List Char) :
    (splitOn d (tidy cs)).map trim = (splitOn d cs).map tidy := by
  induction cs using delimited_induction hne with
  | nil => rfl
  | delimiter ys ih =>
    rw [splitOn_append hne ys, List.map_cons, ← ih]
    rcases tidy_append hne hd ys with htidy | htidy
    · rw [htidy, splitOn_append hne, List.map_cons]
      rfl
    · obtain ⟨piece, pieces, hsplit, -⟩ := exists_splitOn hne (tidy ys)
      rw [htidy, splitOn_append hne, splitOn_cons (not_prefix_blank hne hd (by decide) _), hsplit, List.map_cons,
        List.modifyHead_cons, List.map_cons, List.map_cons, trim_cons_blank (by decide)]
      rfl
  | other c cs hbegins ih =>
    cases hc : isBlank c with
    | true =>
      obtain ⟨piece, pieces, hsplit, -⟩ := exists_splitOn hne cs
      rw [tidy_cons_blank hc, ih, splitOn_cons hbegins, hsplit, List.modifyHead_cons, List.map_cons, List.map_cons,
        tidy_cons_blank hc]
    | false => exact map_trim_splitOn_tidy_cons hne hd hc hbegins ih

/-! ## Where a delimiter begins -/

/-- The delimiter begins nowhere in a text that `ys` comes after. -/
def Free (d : List Char) : (xs ys : List Char) → Prop
  | [], _ => True
  | x :: xs, ys => ¬ d <+: x :: (xs ++ ys) ∧ Free d xs ys

/-- What the delimiter does not begin in belongs to one piece. -/
theorem splitOn_free (h : Free d xs ys) : splitOn d (xs ++ ys) = (splitOn d ys).modifyHead (xs ++ ·) := by
  induction xs with
  | nil => exact (congrFun List.modifyHead_id _).symm
  | cons x xs ih =>
    rw [List.cons_append, splitOn_cons h.1, ih h.2, List.modifyHead_modifyHead]
    rfl

theorem free_append {zs : List Char} : Free d (xs ++ zs) ys ↔ Free d xs (zs ++ ys) ∧ Free d zs ys := by
  induction xs with
  | nil => exact (iff_of_eq (true_and _)).symm
  | cons x xs ih =>
    rw [List.cons_append, Free, Free, ih, List.append_assoc, and_assoc]

/-- Nothing but blanks. -/
def Blanks (cs : List Char) : Prop := ∀ c ∈ cs, isBlank c = true

theorem Blanks.head (h : Blanks xs) : ∀ c, xs.head? = some c → isBlank c = true :=
  fun c hc => h c (List.mem_of_head? hc)

theorem Blanks.head_append (h : Blanks xs) (hne : xs ≠ []) (ys : List Char) :
    ∀ c, (xs ++ ys).head? = some c → isBlank c = true := by
  obtain ⟨x, xs, rfl⟩ := List.exists_cons_of_ne_nil hne
  exact h.head

theorem free_blanks (hne : d ≠ []) (hd : ∀ c ∈ d, isBlank c = false) (hxs : Blanks xs) (ys : List Char) :
    Free d xs ys := by
  induction xs with
  | nil => trivial
  | cons x xs ih =>
    obtain ⟨hx, hxs⟩ := List.forall_mem_cons.mp hxs
    exact ⟨not_prefix_blank hne hd hx _, ih hxs⟩

/-- A delimiter that begins in a word does not go on after a blank. -/
theorem prefix_of_prefix_append (hd : ∀ c ∈ d, isBlank c = false) (hys : ∀ c, ys.head? = some c → isBlank c = true)
    (h : d <+: xs ++ ys) : d <+: xs := by
  induction d generalizing xs with
  | nil => exact List.nil_prefix
  | cons a d ih =>
    obtain ⟨ha, hd⟩ := List.forall_mem_cons.mp hd
    cases xs with
    | nil =>
      obtain ⟨rest, hrest⟩ := h
      have hblank := hys a (by rw [← List.nil_append ys, ← hrest]; rfl)
      rw [ha] at hblank
      cases hblank
    | cons x xs =>
      obtain ⟨rfl, hnext⟩ := List.cons_prefix_cons.mp h
      exact List.cons_prefix_cons.mpr ⟨rfl, ih hd hnext⟩

theorem free_of_end (hd : ∀ c ∈ d, isBlank c = false) (hys : ∀ c, ys.head? = some c → isBlank c = true)
    (h : ¬ d <:+: xs) : Free d xs ys := by
  induction xs with
  | nil => trivial
  | cons x xs ih =>
    refine ⟨fun hbegins => h ?_, ih fun hwithin => h (List.infix_cons hwithin)⟩
    have hword : d <+: x :: xs := prefix_of_prefix_append hd hys hbegins
    exact hword.isInfix

/-- A delimiter that comes after a word is the first one, if it does not begin in the word. -/
theorem free_of_delimiter (h : ¬ d <:+: xs ++ d.dropLast) (ys : List Char) : Free d xs (d ++ ys) := by
  induction xs with
  | nil => trivial
  | cons x xs ih =>
    refine ⟨fun hbegins => h ?_, ih fun hwithin => h (List.infix_cons hwithin)⟩
    have hlonger : x :: xs ++ d.dropLast <+: x :: (xs ++ (d ++ ys)) :=
      List.prefix_append_right_inj (x :: xs) |>.mpr ((List.dropLast_prefix d).trans (List.prefix_append d ys))
    have hlength : d.length ≤ (x :: xs ++ d.dropLast).length := by
      rw [List.length_append, List.length_cons, List.length_dropLast]
      omega
    exact (List.prefix_of_prefix_length_le hbegins hlonger hlength).isInfix

end ChatBot.Text
