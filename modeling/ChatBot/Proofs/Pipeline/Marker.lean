/-
  ChatBot.Proofs.Pipeline.Marker — which messages the marker makes invocations, and what a
  configuration warns of.

  The marker is cut off by its bytes and then compared. A head that is the marker up to the
  case of ASCII letters has as many bytes, so the cut never misses it and never falls into
  a character of it (`stripMarker_eq_some`). No message begins with the marker exactly when
  the marker is empty or begins with a blank (`stripMarker_eq_none_iff`), and a
  configuration warns of every marker that is empty or has a blank (`warnsOfMarker_iff`).

  Proved: `stripMarker_warned`. What begins with a marker that is not warned of is always
  taken, and a bot that ignores every message has been warned of its marker.
-/
import ChatBot.Pipeline.Run
import ChatBot.Proofs.Text.Case
import ChatBot.Proofs.Text.Cut

namespace ChatBot

open Text

variable {content marker head rest : String}

/-! ## Behind leading blanks -/

theorem trimStart_append {gap cs : List Char} (hgap : ∀ c ∈ gap, isBlank c = true)
    (hcs : cs.head?.any isBlank = false) : trimStart (gap ++ cs) = cs := by
  unfold trimStart
  rw [List.dropWhile_append_of_pos hgap]
  cases cs with
  | nil => rfl
  | cons c cs => exact List.dropWhile_cons_of_neg (by simpa using hcs)

theorem not_blank_trimStart (cs : List Char) : (trimStart cs).head?.any isBlank = false := by
  cases h : (trimStart cs).head? with
  | none => rfl
  | some c => exact isBlank_of_head?_dropWhile h

theorem any_blank_of_head? {cs : List Char} (h : cs.head?.any isBlank = true) : cs.any isBlank = true := by
  cases cs with
  | nil => cases h
  | cons c cs =>
    rw [List.any_cons, Bool.or_eq_true]
    exact .inl h

/-- Of texts that are alike both begin with a blank or neither does. -/
theorem blank_head?_of_alike (h : alike head marker = true) :
    head.toList.head?.any isBlank = marker.toList.head?.any isBlank := by
  have hfold : ∀ o : Option Char, (o.map Char.toLower).any isBlank = o.any isBlank := by
    intro o
    cases o with
    | none => rfl
    | some c => exact isBlank_toLower c
  have hlower := congrArg List.head? (alike_iff.mp h)
  rw [List.head?_map, List.head?_map] at hlower
  rw [← hfold, hlower, hfold]

/-! ## What follows the marker -/

theorem stripMarker_eq_some : stripMarker content marker = some rest ↔
    marker ≠ "" ∧ ∃ head, trimStart content.toList = (head ++ rest).toList ∧ alike head marker = true := by
  unfold stripMarker
  constructor
  · intro h
    dsimp only at h
    split at h
    · cases h
    · rename_i hsize
      obtain ⟨⟨first, behind⟩, hparts, hmatch⟩ := Option.bind_eq_some_iff.mp h
      obtain ⟨htext, -⟩ := splitAtByte?_eq_some.mp hparts
      split at hmatch
      · rename_i halike
        cases hmatch
        refine ⟨?_, String.ofList first, ?_, halike⟩
        · intro hempty
          simp [hempty] at hsize
        · rw [htext, String.toList_append, String.toList_ofList, String.toList_ofList]
      · cases hmatch
  · intro h
    obtain ⟨hne, head, htext, halike⟩ := h
    have hwidth : byteWidth head.toList = byteWidth marker.toList := by
      rw [byteWidth_toList, byteWidth_toList]
      exact utf8ByteSize_eq_of_alike halike
    have hparts : splitAtByte? (byteWidth marker.toList) (trimStart content.toList) =
        some (head.toList, rest.toList) :=
      splitAtByte?_eq_some.mpr ⟨by rw [htext, String.toList_append], hwidth⟩
    have hsize : (marker.isEmpty || decide (byteWidth (trimStart content.toList) < byteWidth marker.toList)) = false := by
      rw [htext, String.toList_append, byteWidth_append, hwidth]
      simpa using hne
    dsimp only
    rw [hsize, if_neg (by simp), hparts, Option.bind_some, String.ofList_toList, String.ofList_toList, if_pos halike]

theorem stripMarker_append {blanks : String} (hblanks : isBlankText blanks = true) (hne : marker ≠ "")
    (hmarker : marker.toList.head?.any isBlank = false) (h : alike head marker = true) :
    stripMarker (blanks ++ head ++ rest) marker = some rest := by
  refine stripMarker_eq_some.mpr ⟨hne, head, ?_, h⟩
  rw [String.append_assoc, String.toList_append]
  apply trimStart_append (List.all_eq_true.mp hblanks)
  have hhead : head.toList ≠ [] := by
    apply toList_ne_nil_of_alike (alike_symm h)
    simpa using hne
  obtain ⟨c, tail, hc⟩ := List.exists_cons_of_ne_nil hhead
  have hsame := blank_head?_of_alike h
  rw [hmarker, hc] at hsame
  rw [String.toList_append, hc]
  exact hsame

/-- No message begins with the marker. -/
theorem stripMarker_eq_none_iff : (∀ content, stripMarker content marker = none) ↔
    marker = "" ∨ marker.toList.head?.any isBlank = true := by
  constructor
  · intro h
    by_cases hne : marker = ""
    · exact .inl hne
    · right
      apply Classical.byContradiction
      intro hblank
      -- the marker itself would be an invocation
      have hself : stripMarker ("" ++ marker ++ "") marker = some "" :=
        stripMarker_append rfl hne (by simpa using hblank) (alike_refl marker)
      rw [h] at hself
      cases hself
  · intro h content
    apply Classical.byContradiction
    intro hsome
    obtain ⟨rest, hrest⟩ := Option.ne_none_iff_exists'.mp hsome
    obtain ⟨hne, head, htext, halike⟩ := stripMarker_eq_some.mp hrest
    rcases h with hempty | hblank
    · exact hne hempty
    · -- the blank at its head is gone from the message
      have hhead : head.toList ≠ [] := by
        apply toList_ne_nil_of_alike (alike_symm halike)
        simpa using hne
      obtain ⟨c, tail, hc⟩ := List.exists_cons_of_ne_nil hhead
      have hstart := not_blank_trimStart content.toList
      have hsame := blank_head?_of_alike halike
      rw [htext, String.toList_append, hc] at hstart
      rw [hblank, hc] at hsame
      exact Bool.noConfusion (hsame.symm.trans hstart)

/-! ## What is warned of -/

/-- A warning about the marker is told from the others by the word that it begins with. -/
def Config.WarnsOfMarker (config : Config) : Prop := ∃ w ∈ config.warnings, "prefix ".toList <+: w.toList

theorem isBlankText_or_any (s : String) : isBlankText s = true ∨ s.toList.any isBlank = true ↔
    s = "" ∨ s.toList.any isBlank = true := by
  constructor
  · intro h
    rcases h with hall | hany
    · by_cases hne : s = ""
      · exact .inl hne
      · right
        obtain ⟨c, tail, hc⟩ := List.exists_cons_of_ne_nil fun hnil => hne (String.toList_eq_nil_iff.mp hnil)
        have hblank : isBlank c = true := List.all_eq_true.mp hall c (by simp [hc])
        rw [hc, List.any_cons, hblank, Bool.true_or]
    · exact .inr hany
  · intro h
    rcases h with rfl | hany
    · exact .inl rfl
    · exact .inr hany

theorem Config.warnsOfMarker_iff {config : Config} :
    config.WarnsOfMarker ↔ config.marker = "" ∨ config.marker.toList.any isBlank = true := by
  rw [← isBlankText_or_any]
  unfold WarnsOfMarker warnings
  simp only [List.mem_append, List.mem_ite_nil_left, List.mem_ite_nil_right, List.mem_singleton]
  constructor
  · intro h
    obtain ⟨w, hw, tail, hstart⟩ := h
    have hfirst : w.toList.head? = some 'p' := by
      rw [← hstart]
      rfl
    rcases hw with (((hw | hw) | hw) | hw) | hw
    · exact .inl hw.1
    · exact .inr hw.1
    · -- the other warnings begin with other letters
      rw [hw.2, String.toList_append, String.toList_append] at hfirst
      cases hfirst
    · rw [hw.2] at hfirst
      cases hfirst
    · rw [hw.2] at hfirst
      cases hfirst
  · intro h
    rcases h with hempty | hany
    · refine ⟨_, .inl (.inl (.inl (.inl ⟨hempty, rfl⟩))), ?_⟩
      decide
    · refine ⟨_, .inl (.inl (.inl (.inr ⟨hany, rfl⟩))), ?_⟩
      rw [String.append_assoc, String.toList_append]
      exact (show "prefix ".toList <+: "prefix '".toList by decide).trans (List.prefix_append _ _)

/-! ## Messages that are ignored -/

namespace Bot

variable {bot : Bot}

theorem announceUnknown_ne_ignored (message : InboundMessage) (text : String) (e : CommandError) (s : State) :
    ((bot.announceUnknown message text e).run s).1 ≠ .ok .ignored := by
  unfold announceUnknown
  split
  · rw [Steps.run_bind]
    cases ((State.send message.channelId ⟨bot.unknownCommandText text e, none⟩).run s).1 with
    | error e => intro h; cases h
    | ok sent => intro h; cases h
  · intro h
    cases h

/-- A bot ignores every message exactly when no message begins with its marker. -/
theorem ignores_iff : (∀ message s, ((bot.handle message).run s).1 = .ok .ignored) ↔
    ∀ content, stripMarker content bot.config.marker = none := by
  constructor
  · intro h
    apply Classical.byContradiction
    rw [stripMarker_eq_none_iff, not_or]
    intro hmarker
    -- somebody types the marker alone, which calls no command
    let message : InboundMessage :=
      ⟨"", "" ++ bot.config.marker ++ "", ⟨"", "", none, false⟩, none, "", [], none, []⟩
    have htext : bot.invocationText message = some "" :=
      stripMarker_append rfl hmarker.1 (by simpa using hmarker.2) (alike_refl _)
    have hresolve : bot.registry.resolve "" = .error (.notFound "Command") := rfl
    let s : State := .initial .empty 0
    have hignored := h message s
    rw [handle, htext] at hignored
    dsimp only at hignored
    rw [hresolve] at hignored
    exact bot.announceUnknown_ne_ignored _ _ _ _ hignored
  · intro h message s
    have hnone : bot.invocationText message = none := by
      unfold invocationText
      rw [h]
      split <;> rfl
    rw [handle, hnone]
    rfl

end Bot

/-- The marker takes exactly the messages that begin with it, up to leading blanks and the case of
    ASCII letters: every such message if nothing is warned of the marker. Where it takes none, every
    message is ignored, and that is warned of. -/
theorem stripMarker_warned :
    (∀ content marker rest, stripMarker content marker = some rest ↔
      marker ≠ "" ∧ ∃ head, trimStart content.toList = (head ++ rest).toList ∧ alike head marker = true) ∧
    (∀ config : Config, ¬ config.WarnsOfMarker → ∀ blanks head rest, isBlankText blanks = true →
      alike head config.marker = true → stripMarker (blanks ++ head ++ rest) config.marker = some rest) ∧
    ∀ bot : Bot,
      ((∀ message s, ((bot.handle message).run s).1 = .ok .ignored) ↔
        ∀ content, stripMarker content bot.config.marker = none) ∧
      ((∀ content, stripMarker content bot.config.marker = none) → bot.config.WarnsOfMarker) := by
  refine ⟨fun _ _ _ => stripMarker_eq_some, ?_, fun bot => ⟨Bot.ignores_iff, ?_⟩⟩
  · intro config hquiet blanks head rest hblanks halike
    rw [Config.warnsOfMarker_iff, not_or] at hquiet
    obtain ⟨hne, hany⟩ := hquiet
    refine stripMarker_append hblanks hne ?_ halike
    exact Bool.eq_false_iff.mpr fun hblank => hany (any_blank_of_head? hblank)
  · intro hdeaf
    rw [Config.warnsOfMarker_iff]
    rcases stripMarker_eq_none_iff.mp hdeaf with hempty | hblank
    · exact .inl hempty
    · exact .inr (any_blank_of_head? hblank)

/-! ### Markers in words and behind a space -/

namespace MarkerInWords

/-- Nothing is warned of this marker. -/
def config : Config := { Config.standard with marker := "hé!" }

/-- No message begins with a no-break space once its blanks are gone. -/
def deaf : Bot := ⟨.empty, { Config.standard with marker := "\u00a0!" }, []⟩

end MarkerInWords

open MarkerInWords in
theorem stripMarker_warned_words :
    ¬ config.WarnsOfMarker ∧ isBlankText "\u3000 " = true ∧ alike "Hé!" "hé!" = true ∧
      stripMarker ("\u3000 " ++ "Hé!" ++ " fm") "hé!" = some " fm" ∧
      (∀ content, stripMarker content deaf.config.marker = none) ∧ deaf.config.WarnsOfMarker ∧
      ∀ message s, ((deaf.handle message).run s).1 = .ok .ignored := by
  have hquiet : ¬ config.WarnsOfMarker := by
    rw [Config.warnsOfMarker_iff]
    decide
  have hblanks : isBlankText "\u3000 " = true := rfl
  have halike : alike "Hé!" "hé!" = true := rfl
  have hdeaf : ∀ content, stripMarker content deaf.config.marker = none := stripMarker_eq_none_iff.mpr (.inr rfl)
  refine ⟨hquiet, hblanks, halike, ?_, hdeaf, ?_, ?_⟩
  · exact stripMarker_warned.2.1 config hquiet "\u3000 " "Hé!" " fm" hblanks halike
  · exact (stripMarker_warned.2.2 deaf).2 hdeaf
  · exact (stripMarker_warned.2.2 deaf).1.mpr hdeaf

end ChatBot
