/-
  ChatBot.Proofs.Registry.Ids — whose records a decision of an admin is about.

  Records are kept by id. A registration compares the ids of a node and of its children with
  all that are registered, so no two registered commands share one. A command that is only
  handed over to is compared with nobody. Messages run registered commands and whatever these
  hand over to, however far (`Runs`). Two commands that run share an id only if one of them is
  handed over to and not registered; and a decision about a command bears on another exactly
  when they share an id (`ids_apart`).
-/
import ChatBot.Proofs.Pipeline.Inheritance
import ChatBot.Proofs.Registry.Atomic

namespace ChatBot

/-! ## Decisions about a command -/

namespace Gate

variable {c d : CommandInfo} {parent : Option CommandInfo} {step : AdminStep} {guild : String}

/-- Some decision about a command changes what the gate answers for another, which was called
    under a parent or by itself. -/
def BearsOn (c d : CommandInfo) (parent : Option CommandInfo) : Prop :=
  ∃ step guild, step.concerns guild c.id.hex = true ∧ ∃ developers stores history message,
    check developers (decided stores (history ++ [step])) d parent message ≠
      check developers (decided stores history) d parent message

/-- A decision is about one command, in whatever server. -/
theorem not_concerns_of_ne (h : step.concerns guild c.id.hex = true) (hne : d.id ≠ c.id) (guild' : String) :
    step.concerns guild' d.id.hex = false := by
  have hhex : c.id.hex ≠ d.id.hex := fun he => hne (congrArg CommandId.mk he).symm
  cases step <;> simp_all [AdminStep.concerns]

theorem switches_eq_false (h : step.concerns guild d.id.hex = false) : step.switches guild d.id.hex = false := by
  cases step <;> simp_all [AdminStep.concerns, AdminStep.switches]

/-- A decision about another command leaves a history as it was. -/
theorem agree_concat (h : step.concerns guild d.id.hex = false) (history : List AdminStep) :
    Agree (history ++ [step]) history guild d := by
  constructor
  · rw [List.filter_append, List.filter_cons_of_neg (by simp [switches_eq_false h]), List.filter_nil, List.append_nil]
  · intro other hother
    have hne : other ≠ step := by
      intro he
      rw [he, h] at hother
      cases hother
    simp [hne]

/-- The developer of a bot asks in a server, and the command is disabled there. -/
theorem bearsOn_of_id_eq {x : CommandInfo} (hx : x ∈ d :: parent.toList) (hid : x.id = c.id) :
    BearsOn c d parent := by
  let message : InboundMessage := ⟨"m", "", ⟨"1", "joe", none, false⟩, some "g", "c", [], none, []⟩
  have hcleared : Cleared ["1"] (d :: parent.toList) message := .inr (by simp [message])
  have hopen : check ["1"] (decided .empty []) d parent message = .ok () := by
    refine check_eq_ok.mpr ⟨hcleared, fun guild _ y _ => ⟨?_, fun hno => absurd ?_ hno⟩⟩
    · intro devOnly
      simp
    · simp [message]
  have hclosed : check ["1"] (decided .empty [.disable "g" c.id.hex false]) d parent message ≠ .ok () := by
    intro hok
    have hon := ((check_eq_ok.mp hok).2 "g" rfl x hx).1 false
    simp [AdminStep.switches, hid] at hon
  refine ⟨.disable "g" c.id.hex false, "g", by simp [AdminStep.concerns], ["1"], .empty, [], message, ?_⟩
  rw [List.nil_append, hopen]
  exact hclosed

/-- What is decided about a command bears on those with its id, and on those called under them. -/
theorem bearsOn_iff : BearsOn c d parent ↔ ∃ x ∈ d :: parent.toList, x.id = c.id := by
  constructor
  · intro ⟨step, guild, hstep, developers, stores, history, message, hchanges⟩
    by_contra hnone
    push Not at hnone
    refine hchanges (check_congr fun guild' _ x hx => ?_)
    exact agree_concat (not_concerns_of_ne hstep (hnone x hx) guild') history
  · intro ⟨x, hx, hid⟩
    exact bearsOn_of_id_eq hx hid

end Gate

namespace Registry

variable {r : Registry} {c d : Command}

/-! ## What messages run -/

/-- The commands that are registered, children among them. -/
def Registers (r : Registry) (c : Command) : Prop := ∃ e ∈ r.entries, e.command = c

/-- The registered commands, and whatever commands that run hand over to. -/
inductive Runs (r : Registry) : Command → Prop
  | registered {c : Command} : r.Registers c → r.Runs c
  | target {c : Command} {rule : (ParsedArgs → Bool) × Command} : r.Runs c → rule ∈ c.delegates → r.Runs rule.2

/-- Some message makes a bot with these commands call the handler of this one. -/
def Callable (r : Registry) (c : Command) : Prop :=
  ∃ (bot : Bot) (message : InboundMessage) (s : State) (part : Handler.Part) (ctx : Context),
    bot.registry = r ∧ .called part c ctx ∈ (bot.handle message).marks s

theorem runs_of_leads {args : Command → ParsedArgs} {first last : Command} {before : List Command}
    (hfirst : r.Runs first) (h : Leads args first before last) : r.Runs last := by
  induction h with
  | stay c => exact hfirst
  | hand hd _ _ _ ih => exact ih (.target hfirst (by rw [hd]; simp))

theorem runs_of_callable (h : r.Callable c) : r.Runs c := by
  obtain ⟨bot, message, s, part, ctx, rfl, hcalled⟩ := h
  obtain ⟨hreaches, hcalls⟩ := bot.handle_marks message s
  obtain ⟨found, before, last, hcalling, hreach⟩ := hreaches (List.ne_nil_of_mem hcalled)
  obtain ⟨rfl, -⟩ := (hcalls found before last hcalling hreach).called_eq hcalled
  obtain ⟨text, -, hfound⟩ := hcalling
  exact runs_of_leads (.registered ⟨found.node, mem_entries_of_resolve hfound, rfl⟩) hreach.leads

/-! ## Ids -/

/-- No two registered commands share an id. -/
theorem Coherent.registers_unique (hr : r.Coherent) (hc : r.Registers c) (hd : r.Registers d) (hid : c.id = d.id) :
    c = d := by
  obtain ⟨e, he, rfl⟩ := hc
  obtain ⟨e', he', rfl⟩ := hd
  have heq : e = e' := List.inj_on_of_nodup_map hr.nodup_ids he he' hid
  rw [heq]

/-- Whether a command is registered does not depend on whom it hands over to. -/
theorem accepts_delegates (r : Registry) (c : Command) (delegates : List ((ParsedArgs → Bool) × Command)) :
    r.Accepts (.leaf { c with delegates := delegates }) ↔ r.Accepts (.leaf c) := by
  constructor <;>
  · intro h
    have hseed := h.seeds _ List.mem_cons_self
    have hid := h.new_ids _ List.mem_cons_self
    refine ⟨fun e he => ?_, fun e he => ?_, h.ids_nodup, h.new_names, h.names_nodup⟩
    · obtain rfl := List.mem_singleton.mp he
      exact hseed
    · obtain rfl := List.mem_singleton.mp he
      exact hid

/-- After any course of registrations: what messages call are commands that run. Two of these
    that share an id are one and the same, or one of them is not registered; whom a command
    hands over to is not looked at when it is registered. A decision about a command bears on
    another exactly when it has its id, or is called under one that has. -/
theorem ids_apart (offered : List Node) :
    (∀ c, (ofOffers offered).Callable c → (ofOffers offered).Runs c) ∧
      (∀ c d, (ofOffers offered).Runs c → (ofOffers offered).Runs d → c.id = d.id →
        c = d ∨ ¬ (ofOffers offered).Registers c ∨ ¬ (ofOffers offered).Registers d) ∧
      (∀ c delegates, (ofOffers offered).Accepts (.leaf { c with delegates := delegates }) ↔
        (ofOffers offered).Accepts (.leaf c)) ∧
      ∀ (c d : Command) (parent : Option CommandInfo),
        Gate.BearsOn c.info d.info parent ↔ ∃ x ∈ d.info :: parent.toList, x.id = c.id := by
  refine ⟨fun c h => runs_of_callable h, ?_, accepts_delegates _, fun c d parent => Gate.bearsOn_iff⟩
  intro c d _ _ hid
  by_cases hc : (ofOffers offered).Registers c
  · by_cases hd : (ofOffers offered).Registers d
    · exact .inl ((coherent_ofOffers offered).registers_unique hc hd hid)
    · exact .inr (.inr hd)
  · exact .inr (.inl hc)

/-! ### A target with the id of a registered command -/

namespace Imported

def importing : Command := .simple (.make "import" "import") (.ofRun fun ctx => .say ctx "imported")

/-- Has the seed of `import`. -/
def wipe : Command := .simple (.make "import" "wipe") (.ofRun fun ctx => .say ctx "wiped")

/-- `wipe` runs in its place. -/
def stats : Command := { importing with info := .make "stats" "stats", delegates := [(fun _ => true, wipe)] }

def offered : List Node := [.leaf importing, .leaf stats]

theorem registered : ofOffers offered = (empty.add (.leaf importing)).add (.leaf stats) := by
  have himport : empty.Accepts (.leaf importing) := ⟨by decide, by decide, by decide, by decide, by decide⟩
  set_option maxRecDepth 2000 in
  have hstats : (empty.add (.leaf importing)).Accepts (.leaf stats) :=
    ⟨by decide, by with_unfolding_all decide, by decide, by decide, by decide⟩
  show (empty.offer (.leaf importing)).offer (.leaf stats) = _
  rw [offer_accepted himport, offer_accepted hstats]

def bot : Bot := ⟨ofOffers offered, Config.standard, []⟩

def message (content : String) : InboundMessage :=
  ⟨"m", content, ⟨"1", "joe", none, false⟩, some "g", "c", [], none, []⟩

def start : State := .initial .empty 0

theorem calling_import : bot.Calling (message "!import") (.below "import" (.leaf importing) none) := by
  refine ⟨"import", by decide, resolve_eq_ok.mpr ⟨"import", .leaf importing, none, rfl, ?_, rfl⟩⟩
  show (ofOffers offered).matchFirst "import" = _
  rw [registered]
  rfl

theorem calling_stats : bot.Calling (message "!stats") (.below "stats" (.leaf stats) none) := by
  refine ⟨"stats", by decide, resolve_eq_ok.mpr ⟨"stats", .leaf stats, none, rfl, ?_, rfl⟩⟩
  show (ofOffers offered).matchFirst "stats" = _
  rw [registered]
  rfl

theorem callable_import : (ofOffers offered).Callable importing := by
  have hreach : bot.Reaches (.ofResolution bot.config (message "!import") (.below "import" (.leaf importing) none))
      start.stores start.today importing [] importing := by
    refine ⟨.stay importing, fun c hc => ?_, by simp [importing, Command.simple], by simp [importing, Command.simple]⟩
    obtain rfl : c = importing := by simpa using hc
    exact ⟨by decide, rfl⟩
  have hcalls := (bot.handle_marks (message "!import") start).2 _ [] importing calling_import hreach
  exact ⟨bot, _, start, .prerun, _, rfl, hcalls.called⟩

theorem callable_wipe : (ofOffers offered).Callable wipe := by
  have hdelegates : stats.delegates = [] ++ (fun _ => true, wipe) :: [] := rfl
  have hreach : bot.Reaches (.ofResolution bot.config (message "!stats") (.below "stats" (.leaf stats) none))
      start.stores start.today stats [stats] wipe := by
    refine ⟨.hand hdelegates (by simp) rfl (.stay wipe), fun c hc => ?_, by simp [wipe, Command.simple],
      by simp [wipe, Command.simple]⟩
    have hc : c = stats ∨ c = wipe := by simpa using hc
    rcases hc with rfl | rfl <;> exact ⟨by decide, rfl⟩
  have hcalls := (bot.handle_marks (message "!stats") start).2 _ [stats] wipe calling_stats hreach
  exact ⟨bot, _, start, .prerun, _, rfl, hcalls.called⟩

end Imported

open Imported in
/-- The target is not registered, and whoever disables `import` disables it. -/
theorem ids_apart_wipe : (ofOffers offered).Runs wipe ∧ ¬ (ofOffers offered).Registers wipe ∧
    Gate.BearsOn importing.info wipe.info none ∧ ¬ Gate.BearsOn stats.info wipe.info none := by
  obtain ⟨hruns, hshare, -, hbears⟩ := ids_apart offered
  have hid : wipe.id = importing.id := rfl
  set_option maxRecDepth 2000 in
  have hstats : ¬ wipe.id = stats.id := by with_unfolding_all decide
  have himport : (ofOffers offered).Registers importing := by
    refine ⟨.leaf importing, ?_, rfl⟩
    rw [registered]
    exact .head _
  refine ⟨hruns wipe callable_wipe, ?_, (hbears importing wipe none).mpr ⟨wipe.info, .head _, hid⟩, ?_⟩
  · rcases hshare wipe importing (hruns wipe callable_wipe) (.registered himport) hid with heq | hnot | hnot
    · exact absurd (congrArg Command.name heq) (by decide)
    · exact hnot
    · exact absurd himport hnot
  · intro h
    obtain ⟨x, hx, hid⟩ := (hbears stats wipe none).mp h
    obtain rfl : x = wipe.info := by simpa using hx
    exact hstats hid

open Imported in
/-- So two commands that messages call can share an id, and the records that are kept under it. -/
theorem not_ids_apart : ¬ ∀ (offered : List Node) (c d : Command), (ofOffers offered).Callable c →
    (ofOffers offered).Callable d → c.name ≠ d.name → c.id ≠ d.id := by
  intro h
  exact h offered importing wipe callable_import callable_wipe (by decide) rfl

end Registry

end ChatBot
