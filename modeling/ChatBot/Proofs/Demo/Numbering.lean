/-
  ChatBot.Proofs.Demo.Numbering — the ids of the messages of one session at the terminal.

  A message takes the next number of the session, and somebody else's session begins at the
  first number again. So the number of a message is not a number of the terminal: what is
  typed after a change of person repeats the ids of what was typed before.

  Proved:
  - `handed_eq`: what the terminal hands to the bot is what the session makes of the lines.
  - `ids_nodup_iff`: the messages of a run have different ids exactly when nobody else is
    typed as between two of them. One message on each side of `:as` is enough to repeat an
    id (`not_ids_nodup`).
-/
import ChatBot.Demo.Terminal
import Mathlib.Data.List.TakeWhile

namespace ChatBot.Demo

/-! ## What is handed to the bot -/

/-- The messages that lines hand to the bot, each line typed at a moment of its own. -/
def Terminal.handed (t : Terminal) : List (Instant × String) → List InboundMessage
  | [] => []
  | (now, line) :: lines =>
    let here := match Line.ofText line with
      | .message text => [t.session.nextMessage text]
      | _ => []
    match (t.enter now line).2 with
    | some t' => here ++ t'.handed lines
    | none => here

/-- The lines before the one that ends the session. -/
def played (lines : List (Instant × String)) : List Line :=
  (lines.map fun l => Line.ofText l.2).takeWhile (· != .control .quit)

theorem Session.messages_control (s : Session) {c : Control} (h : c ≠ .quit) (lines : List Line) :
    s.messages (.control c :: lines) = (s.after c).messages lines := by
  cases c with
  | quit => exact absurd rfl h
  | _ => rfl

theorem Terminal.handed_eq (t : Terminal) (lines : List (Instant × String)) :
    t.handed lines = t.session.messages (played lines) := by
  induction lines generalizing t with
  | nil => rfl
  | cons l lines ih =>
    obtain ⟨now, line⟩ := l
    have hplayed : played ((now, line) :: lines) =
        if Line.ofText line != .control .quit then Line.ofText line :: played lines else [] := List.takeWhile_cons
    rw [handed, hplayed, enter]
    cases hline : Line.ofText line with
    | nothing => exact ih t
    | message text => exact congrArg (_ :: ·) (ih _)
    | control c =>
      by_cases hquit : c = .quit
      · subst hquit
        rfl
      · have hne : (Line.control c != .control .quit) = true := by simpa using hquit
        rw [if_pos hne, t.session.messages_control hquit]
        have hnext := ih { t with session := t.session.after c }
        cases c with
        | quit => exact absurd rfl hquit
        | _ => exact hnext

/-! ## Numbers -/

/-- The id of the message with a number. -/
def label (n : Nat) : String := "local-" ++ toString n

theorem label_inj {m n : Nat} (h : label m = label n) : m = n := by
  have hlists := congrArg String.toList h
  simp only [label, String.toList_append, Nat.toString_eq_repr, Nat.toList_repr] at hlists
  have hdigits := congrArg (Nat.ofDigitChars 10 · 0) (List.append_cancel_left hlists)
  simpa using hdigits

namespace Session

variable {lines : List Line}

def ids (s : Session) (lines : List Line) : List String := (s.messages lines).map (·.id)

theorem ids_message (s : Session) (text : String) (lines : List Line) :
    s.ids (.message text :: lines) = label (s.typed + 1) :: s.afterMessage.ids lines := rfl

theorem ids_control (s : Session) {c : Control} (h : c ≠ .quit) (lines : List Line) :
    s.ids (.control c :: lines) = (s.after c).ids lines := by
  rw [ids, s.messages_control h]
  rfl

/-- A control forgets how many messages were typed, or keeps it. -/
theorem typed_after (s : Session) (c : Control) :
    (∃ userId, c = .become (some userId) ∧ (s.after c).typed = 0) ∨
      (∀ userId, c ≠ .become (some userId)) ∧ (s.after c).typed = s.typed := by
  cases c with
  | become userId =>
    cases userId with
    | none => exact .inr ⟨fun _ h => (by cases h), rfl⟩
    | some userId => exact .inl ⟨userId, rfl, rfl⟩
  | _ => exact .inr ⟨fun _ h => (by cases h), rfl⟩

theorem typed_after_fresh (s : Session) (hfresh : s.typed = 0) (c : Control) : (s.after c).typed = 0 := by
  rcases s.typed_after c with ⟨-, -, hzero⟩ | ⟨-, hsame⟩
  · exact hzero
  · rw [hsame, hfresh]

/-- Somebody else is typed as, and a message follows. -/
def Resumes (lines : List Line) : Prop :=
  ∃ userId text, [.control (.become (some userId)), .message text].Sublist lines

/-- A message is typed, then as somebody else another. -/
def Repeats (lines : List Line) : Prop :=
  ∃ first userId second, [.message first, .control (.become (some userId)), .message second].Sublist lines

theorem resumes_cons {line : Line} : Resumes (line :: lines) ↔
    Resumes lines ∨ (∃ userId, line = .control (.become (some userId))) ∧ ∃ text, .message text ∈ lines := by
  constructor
  · rintro ⟨userId, text, h⟩
    rcases List.sublist_cons_iff.mp h with h | ⟨_, heq, h⟩
    · exact .inl ⟨userId, text, h⟩
    · obtain ⟨rfl, rfl⟩ := List.cons.inj heq
      exact .inr ⟨⟨userId, rfl⟩, text, List.singleton_sublist.mp h⟩
  · rintro (⟨userId, text, h⟩ | ⟨⟨userId, rfl⟩, text, h⟩)
    · exact ⟨userId, text, h.cons line⟩
    · exact ⟨userId, text, (List.singleton_sublist.mpr h).cons_cons _⟩

theorem repeats_cons {line : Line} : Repeats (line :: lines) ↔
    Repeats lines ∨ (∃ text, line = .message text) ∧ Resumes lines := by
  constructor
  · rintro ⟨first, userId, second, h⟩
    rcases List.sublist_cons_iff.mp h with h | ⟨_, heq, h⟩
    · exact .inl ⟨first, userId, second, h⟩
    · obtain ⟨rfl, rfl⟩ := List.cons.inj heq
      exact .inr ⟨⟨first, rfl⟩, userId, second, h⟩
  · rintro (⟨first, userId, second, h⟩ | ⟨⟨first, rfl⟩, userId, second, h⟩)
    · exact ⟨first, userId, second, h.cons line⟩
    · exact ⟨first, userId, second, h.cons_cons _⟩

theorem Repeats.resumes (h : Repeats lines) : Resumes lines := by
  obtain ⟨_, userId, second, h⟩ := h
  exact ⟨userId, second, (List.sublist_cons_self _ _).trans h⟩

/-! ### The number that a message takes -/

/-- The first message of a session takes the first number. -/
theorem first_mem_ids {s : Session} (hfresh : s.typed = 0) (hquit : ∀ line ∈ lines, line ≠ .control .quit)
    {text : String} (h : .message text ∈ lines) : label 1 ∈ s.ids lines := by
  induction lines generalizing s with
  | nil => cases h
  | cons line lines ih =>
    obtain ⟨hline, hrest⟩ := List.forall_mem_cons.mp hquit
    cases line with
    | nothing => exact ih hfresh hrest (List.mem_of_ne_of_mem (by simp) h)
    | control c =>
      rw [ids_control s fun hc => hline (congrArg _ hc)]
      exact ih (s.typed_after_fresh hfresh c) hrest (List.mem_of_ne_of_mem (by simp) h)
    | message _ =>
      rw [ids_message, hfresh]
      exact List.mem_cons_self

/-- Somebody else begins with the first number, whatever was typed before. -/
theorem first_mem_ids_of_resumes (s : Session) (hquit : ∀ line ∈ lines, line ≠ .control .quit) (h : Resumes lines) :
    label 1 ∈ s.ids lines := by
  induction lines generalizing s with
  | nil =>
    obtain ⟨_, _, h⟩ := h
    cases h
  | cons line lines ih =>
    obtain ⟨hline, hrest⟩ := List.forall_mem_cons.mp hquit
    rcases resumes_cons.mp h with hlater | ⟨⟨userId, rfl⟩, text, htext⟩
    · cases line with
      | nothing => exact ih s hrest hlater
      | control c =>
        rw [ids_control s fun hc => hline (congrArg _ hc)]
        exact ih (s.after c) hrest hlater
      | message _ => exact List.mem_cons_of_mem _ (ih s.afterMessage hrest hlater)
    · rw [ids_control s (by simp)]
      exact first_mem_ids rfl hrest htext

theorem exists_message_of_mem_ids {s : Session} {id : String} (hquit : ∀ line ∈ lines, line ≠ .control .quit)
    (h : id ∈ s.ids lines) : ∃ text, .message text ∈ lines := by
  induction lines generalizing s with
  | nil => cases h
  | cons line lines ih =>
    obtain ⟨hline, hrest⟩ := List.forall_mem_cons.mp hquit
    cases line with
    | nothing =>
      obtain ⟨text, htext⟩ := ih hrest h
      exact ⟨text, List.mem_cons_of_mem _ htext⟩
    | control c =>
      rw [ids_control s fun hc => hline (congrArg _ hc)] at h
      obtain ⟨text, htext⟩ := ih hrest h
      exact ⟨text, List.mem_cons_of_mem _ htext⟩
    | message text => exact ⟨text, List.mem_cons_self⟩

/-- While nobody resumes, numbers go up. -/
theorem ids_of_not_resumes (s : Session) (hquit : ∀ line ∈ lines, line ≠ .control .quit) (h : ¬ Resumes lines) :
    (s.ids lines).Nodup ∧ ∀ id ∈ s.ids lines, ∃ n, s.typed < n ∧ id = label n := by
  induction lines generalizing s with
  | nil => exact ⟨List.nodup_nil, fun _ hid => absurd hid List.not_mem_nil⟩
  | cons line lines ih =>
    obtain ⟨hline, hrest⟩ := List.forall_mem_cons.mp hquit
    have hlater : ¬ Resumes lines := fun hresumes => h (resumes_cons.mpr (.inl hresumes))
    cases line with
    | nothing => exact ih s hrest hlater
    | control c =>
      rw [ids_control s fun hc => hline (congrArg _ hc)]
      obtain ⟨hnodup, hids⟩ := ih (s.after c) hrest hlater
      refine ⟨hnodup, fun id hid => ?_⟩
      rcases s.typed_after c with ⟨userId, rfl, hzero⟩ | ⟨-, hsame⟩
      · -- nothing is typed any more
        obtain ⟨text, htext⟩ := exists_message_of_mem_ids hrest hid
        exact absurd (resumes_cons.mpr (.inr ⟨⟨userId, rfl⟩, text, htext⟩)) h
      · rw [← hsame]
        exact hids id hid
    | message text =>
      obtain ⟨hnodup, hids⟩ := ih s.afterMessage hrest hlater
      rw [ids_message]
      have hmore : ∀ id ∈ s.afterMessage.ids lines, ∃ n, s.typed + 1 < n ∧ id = label n := hids
      constructor
      · refine List.nodup_cons.mpr ⟨fun hmem => ?_, hnodup⟩
        obtain ⟨n, hn, heq⟩ := hmore _ hmem
        have := label_inj heq
        omega
      · refine List.forall_mem_cons.mpr ⟨⟨s.typed + 1, by omega, rfl⟩, fun id hid => ?_⟩
        obtain ⟨n, hn, heq⟩ := hmore id hid
        exact ⟨n, by omega, heq⟩

/-- In a new session ids repeat only where somebody else goes on. -/
theorem ids_nodup_of_fresh {s : Session} (hfresh : s.typed = 0) (hquit : ∀ line ∈ lines, line ≠ .control .quit) :
    (s.ids lines).Nodup ↔ ¬ Repeats lines := by
  induction lines generalizing s with
  | nil =>
    refine iff_of_true List.nodup_nil ?_
    rintro ⟨_, _, _, h⟩
    cases h
  | cons line lines ih =>
    obtain ⟨hline, hrest⟩ := List.forall_mem_cons.mp hquit
    rw [repeats_cons]
    cases line with
    | nothing =>
      rw [or_iff_left (by simp)]
      exact ih hfresh hrest
    | control c =>
      rw [or_iff_left (by simp), ids_control s fun hc => hline (congrArg _ hc)]
      exact ih (s.typed_after_fresh hfresh c) hrest
    | message text =>
      constructor
      · intro hnodup h
        have hresumes : Resumes lines := h.elim Repeats.resumes And.right
        rw [ids_message, hfresh] at hnodup
        exact (List.nodup_cons.mp hnodup).1 (first_mem_ids_of_resumes _ hrest hresumes)
      · intro h
        have hresumes : ¬ Resumes (.message text :: lines) := fun hresumes =>
          h (.inr ⟨⟨text, rfl⟩, (resumes_cons.mp hresumes).resolve_right (by simp)⟩)
        exact (ids_of_not_resumes s hquit hresumes).1

end Session

/-- The messages of a run at the terminal have different ids exactly when nobody is typed as
    between two of them. -/
theorem ids_nodup_iff (bot : Bot) (quiet : Bool) (started : Instant) (state : State) (userId : String)
    (guild : Option String) (lines : List (Instant × String)) :
    (((⟨bot, quiet, started, .start userId guild, state⟩ : Terminal).handed lines).map (·.id)).Nodup ↔
      ¬ ∃ first other second,
        [Line.message first, .control (.become (some other)), .message second].Sublist (played lines) := by
  have hquit : ∀ line ∈ played lines, line ≠ .control .quit := by
    intro line hline
    simpa using List.mem_takeWhile_imp hline
  rw [Terminal.handed_eq]
  exact Session.ids_nodup_of_fresh rfl hquit

/-- Two people who type one message each give two messages with one id. -/
theorem not_ids_nodup :
    ¬ ∀ (bot : Bot) (quiet : Bool) (started : Instant) (state : State) (userId : String) (guild : Option String)
      (lines : List (Instant × String)),
      (((⟨bot, quiet, started, .start userId guild, state⟩ : Terminal).handed lines).map (·.id)).Nodup := by
  intro h
  have hnodup := h ⟨.empty, .standard, []⟩ true 0 (.initial .empty 0) "1" (some localGuild)
    [(0, "!s"), (0, ":as 2"), (0, "!s")]
  have hplayed : played [(0, "!s"), (0, ":as 2"), (0, "!s")] =
      [.message "!s", .control (.become (some "2")), .message "!s"] := rfl
  rw [Terminal.handed_eq, hplayed] at hnodup
  revert hnodup
  decide

end ChatBot.Demo
