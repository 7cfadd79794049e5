/-
  ChatBot.Proofs.Demo.Sessions — what typed lines can lead the demonstration bot to.

  A session starts over stores that answer and a chat that takes everything, with a bot of
  tame commands. No line changes that: a message leaves a calm state calm, and a control
  changes nothing but the session (`Reached.sound`). So whatever is typed, whoever types it
  and whatever the settings, every message has an outcome, none ends with an internal error,
  and none is counted or reported (`no_internal_error`).
-/
import ChatBot.Demo.Terminal
import ChatBot.Proofs.Demo.Commands

namespace ChatBot.Demo

open Steps

/-! ## The bot -/

theorem exists_registry : ∃ r, registry .filled = .ok r := by
  have hok : (registry .filled).toBool = true := by decide +kernel
  cases h : registry .filled with
  | ok r => exact ⟨r, rfl⟩
  | error e =>
    rw [h] at hok
    cases hok

theorem bot_tame {r : Registry} (h : registry .filled = .ok r) (config : Config) (hooks : List Hook) :
    (Bot.mk r config hooks).Tame := by
  intro entry hentry
  obtain ⟨node, hnode, hentry⟩ := List.mem_flatMap.mp hentry
  rw [(Registry.ofNodes_eq_ok h).2] at hnode
  exact tame_nodes node hnode entry hentry

/-- Nobody who types is a bot. -/
theorem bot_personOrStranger (id : String) : (personOrStranger id).bot = false := by
  have hpeople : ∀ u ∈ people, u.bot = false := by decide
  unfold personOrStranger
  cases h : person? id with
  | none => rfl
  | some u => exact hpeople u (List.mem_of_find?_eq_some h)

/-! ## Sessions -/

namespace Terminal

variable {config : Config} {t t' : Terminal} {now : Instant} {line : String} {screen : Screen}

/-- The terminals that lines lead to, each typed at a moment of its own. -/
inductive Reached (config : Config) : Terminal → Prop
  | start {quiet : Bool} {userId : String} {guild : Option String} {now : Instant} {t : Terminal} :
    Terminal.start config quiet (.start userId guild) now = .ok t → Reached config t
  | enter {t t' : Terminal} {now : Instant} {line : String} {screen : Screen} :
    Reached config t → t.enter now line = (screen, some t') → Reached config t'

/-- The bot of the demonstration, in a calm state, and a person who types. -/
structure Sound (config : Config) (t : Terminal) : Prop where
  registry : registry .filled = .ok t.bot.registry
  config : t.bot.config = config
  hooks : t.bot.hooks = []
  person : t.session.author.bot = false
  calm : t.state.Calm

theorem calm_initial (now : Instant) : (State.initial (stores now) now).Calm :=
  ⟨fun _ => rfl, fun _ => rfl, rfl, rfl, nofun, rfl, rfl⟩

theorem Sound.start {quiet : Bool} {userId : String} {guild : Option String}
    (h : Terminal.start config quiet (.start userId guild) now = .ok t) : t.Sound config := by
  obtain ⟨r, hr, h⟩ := bind_eq_ok.mp h
  cases h
  exact ⟨hr, rfl, rfl, bot_personOrStranger userId, calm_initial now⟩

/-- A message leaves everything in order, and ends without an internal error. -/
theorem Sound.deliver (h : t.Sound config) (now : Instant) (text : String) :
    Settled (t.deliver now text).1 ∧ (t.deliver now text).2.2.Sound config := by
  have htame : t.bot.Tame := bot_tame h.registry t.bot.config t.bot.hooks
  obtain ⟨hafter, hsettled⟩ := (Bot.handleAndSettle_within htame (t.session.nextMessage text)).run (h.calm.at now)
  exact ⟨hsettled, h.registry, h.config, h.hooks, h.person, hafter⟩

theorem Sound.after (h : t.Sound config) (c : Control) : { t with session := t.session.after c }.Sound config := by
  refine ⟨h.registry, h.config, h.hooks, ?_, h.calm⟩
  cases c with
  | become userId =>
    cases userId with
    | none => exact h.person
    | some id => exact bot_personOrStranger id
  | _ => exact h.person

theorem Sound.enter (h : t.Sound config) (henter : t.enter now line = (screen, some t')) : t'.Sound config := by
  unfold Terminal.enter at henter
  split at henter
  · cases henter
    exact h
  · cases henter
  · cases henter
    exact h.after _
  · cases henter
    exact (h.deliver now _).2

/-- Every line leaves everything in order. -/
theorem Reached.sound (h : t.Reached config) : t.Sound config := by
  induction h with
  | start hstart => exact .start hstart
  | enter _ henter ih => exact ih.enter henter

end Terminal

open Terminal in
/-- The demonstration bot can be started. Whatever lines are typed then, no internal error has been counted
    and none reported; and the next message, whatever its text, has an outcome in which there is none. -/
theorem no_internal_error (config : Config) :
    (∀ quiet userId guild now, ∃ t, Terminal.start config quiet (.start userId guild) now = .ok t) ∧
      ∀ t : Terminal, t.Reached config → t.state.metrics.internalErrors = 0 ∧ t.state.monitor.reports = [] ∧
        ∀ now text, ∃ o, (t.deliver now text).1 = .ok o ∧ ∀ e, o.error? = some e → e.kind ≠ .unknown := by
  refine ⟨fun quiet userId guild now => ?_, fun t ht => ?_⟩
  · obtain ⟨r, hr⟩ := exists_registry
    exact ⟨_, bind_eq_ok.mpr ⟨r, hr, rfl⟩⟩
  · exact ⟨ht.sound.calm.internalErrors, ht.sound.calm.reports, fun now text => (ht.sound.deliver now text).1⟩

open Terminal in
/-- A session in direct messages, in which somebody asks to go back without saying how far. -/
theorem no_internal_error_goback : ∃ t t₁ t₂ screen screen₁,
    Terminal.start Config.standard false (.start "1" (some localGuild)) 0 = .ok t ∧
      t.enter 0 ":dm" = (screen, some t₁) ∧ t₁.enter 60 "!goback" = (screen₁, some t₂) ∧
      t₂.state.metrics.internalErrors = 0 ∧
      ∃ o, (t₂.deliver 120 "!goback overall").1 = .ok o ∧ ∀ e, o.error? = some e → e.kind ≠ .unknown := by
  obtain ⟨hstarts, hreached⟩ := no_internal_error Config.standard
  obtain ⟨t, hstart⟩ := hstarts false "1" (some localGuild) 0
  let t₁ : Terminal := { t with session := t.session.after .directMessages }
  have hdm : t.enter 0 ":dm" = (.remark "now in direct messages", some t₁) := rfl
  have hgoback : t₁.enter 60 "!goback" = (_, some (t₁.deliver 60 "!goback").2.2) := rfl
  obtain ⟨hinternal, -, hnext⟩ := hreached _ (.enter (.enter (.start hstart) hdm) hgoback)
  exact ⟨t, t₁, _, _, _, hstart, hdm, hgoback, hinternal, hnext 120 "!goback overall"⟩

end ChatBot.Demo
