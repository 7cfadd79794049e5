/-
  ChatBot.Proofs.Demo.Undo — disabling and enabling again.

  A toggle leaves itself alone, but not the other one. So what was disabled can be enabled
  again, and the records are then what they were, unless it is `enable` that was disabled, or
  was before (`enable_after_disable`): nothing that is typed in the chat makes it answer again.
-/
import ChatBot.Proofs.Demo.Toggles
import ChatBot.Proofs.Dict

namespace ChatBot.Demo

section Undo

variable {r : Registry} {guild name : String} {words : List String} {g after : GateRecords} {node : Node}
  {answer : Except CommandError String}

theorem disables_disable (g : GateRecords) (guild : String) (id other : CommandId) :
    (g.disable guild id.hex false).disables guild other = (decide (other = id) || g.disables guild other) := by
  unfold GateRecords.disables GateRecords.status GateRecords.disable
  rw [Dict.get?_insert]
  by_cases h : other = id
  · rw [if_pos (by rw [h])]
    simp [h]
  · have hkey : (guild, other.hex) ≠ (guild, id.hex) := by
      intro he
      exact h (congrArg CommandId.mk (Prod.mk.inj he).2)
    rw [if_neg hkey]
    simp [h]

/-- Enabling what was just disabled takes back what that wrote. -/
theorem enable_disable (hg : g.Switched) {id : CommandId} (hon : g.disables guild id = false) :
    (g.disable guild id.hex false).enable guild id.hex = (true, g) := by
  have hnew : g.disabled.get? (guild, id.hex) = none := by
    cases hget : g.disabled.get? (guild, id.hex) with
    | none => rfl
    | some status =>
      rw [GateRecords.disables, GateRecords.status, hget, Option.getD_some, hg.eq_of_get? hget] at hon
      cases hon
  unfold GateRecords.enable GateRecords.disable
  rw [Dict.contains, Dict.get?_insert, if_pos rfl, Dict.erase_insert_new hnew]
  rfl

theorem head?_append {a : String} {c : Char} (h : a.toList.head? = some c) (b : String) :
    (a ++ b).toList.head? = some c := by
  rw [String.toList_append, List.head?_append, h]
  rfl

/-- Only one answer of `disable` begins like this. -/
theorem effect_disable (heffect : Toggle.disable.effect r guild words g = (answer, after))
    (htold : "Disabled".toList <+: (told answer).toList) :
    ∃ name node, Toggle.argument words = some name ∧ r.lookup name = some node ∧
      answer = .ok ("Disabled `" ++ node.command.info.name ++ "` in this server") ∧
      after = g.disable guild node.command.info.id.hex false := by
  have hletter : (told answer).toList.head? = some 'D' := by
    obtain ⟨rest, hrest⟩ := htold
    have hfirst : "Disabled".toList.head? = some 'D' := by decide
    rw [← hrest, List.head?_append, hfirst]
    rfl
  -- every other answer begins with another letter
  unfold Toggle.effect at heffect
  split at heffect
  · cases heffect
    exact absurd hletter (by decide)
  split at heffect
  · cases heffect
    exact absurd hletter (by decide)
  rename_i name hname
  split at heffect
  · cases heffect
    have hother : (told (.error (.notFound ("Command `" ++ name ++ "`")))).toList.head? = some 'C' :=
      head?_append (head?_append (head?_append (by decide) name) "`") " not found!"
    rw [hother] at hletter
    cases hletter
  rename_i node hlookup
  split at heffect
  · cases heffect
    exact absurd hletter (by decide)
  · cases heffect
    exact ⟨name, node, hname, hlookup, rfl, rfl⟩

/-- `disable` disables whatever it finds but itself. -/
theorem effect_disable_of_lookup (hallowed : g.disables guild Toggle.disable.id = false)
    (hname : Toggle.argument words = some name) (hlookup : r.lookup name = some node)
    (hother : node.command.info.id ≠ Toggle.disable.id) : Toggle.disable.effect r guild words g =
      (.ok ("Disabled `" ++ node.command.info.name ++ "` in this server"),
        g.disable guild node.command.info.id.hex false) := by
  simp only [Toggle.effect, hallowed, hname, hlookup, hother, Bool.false_eq_true, if_false]
  rfl

/-- What `enable` answers right after. -/
theorem effect_enable (hg : g.Switched) (hname : Toggle.argument words = some name)
    (hlookup : r.lookup name = some node) (hon : g.disables guild node.command.info.id = false) :
    Toggle.enable.effect r guild words (g.disable guild node.command.info.id.hex false) =
      if node.command.info.id = Toggle.enable.id ∨ g.disables guild Toggle.enable.id = true
      then (.error (.permissionDenied "This command has been disabled in this server"),
        g.disable guild node.command.info.id.hex false)
      else (.ok ("Enabled `" ++ node.command.info.name ++ "` in this server"), g) := by
  have hrefused : (g.disable guild node.command.info.id.hex false).disables guild Toggle.enable.id = true ↔
      node.command.info.id = Toggle.enable.id ∨ g.disables guild Toggle.enable.id = true := by
    rw [disables_disable, Bool.or_eq_true, decide_eq_true_iff, eq_comm]
  unfold Toggle.effect
  simp only [hrefused, hname, hlookup]
  split
  · rfl
  · rename_i hallowed
    rw [if_neg (not_or.mp hallowed).1, Toggle.applied, enable_disable hg hon]
    rfl

end Undo

open Terminal in
/-- Whatever was typed before: when `disable` answers that it has disabled a command in a server, it has done
    that. If the command was not disabled there before, the same person who then types `enable` with the same words
    gets the records back as they were, and is told so; unless the command is `enable` itself, or `enable` was
    disabled there before. Then nothing is changed, and the person is told that the command is disabled. -/
theorem enable_after_disable {config : Config} {t t₁ : Terminal} (ht : t.Reached config) {guild : String}
    (hguild : t.session.guildId = some guild) {words : List String} {line₁ line₂ : String}
    (h₁ : t.Calls .disable line₁ words) (h₂ : t.Calls .enable line₂ words) {now₁ : Instant} {screen : Screen}
    (henter : t.enter now₁ line₁ = (screen, some t₁)) {text : String} (htext : text ∈ screen.printed)
    (hdisabled : "Disabled".toList <+: text.toList) :
    ∃ name node, Toggle.argument words = some name ∧ t.bot.registry.lookup name = some node ∧
      screen = .print ("Disabled `" ++ node.command.info.name ++ "` in this server") ∧
      t₁.records = t.records.disable guild node.command.info.id.hex false ∧
      (t.records.disables guild node.command.info.id = false → ∀ now₂, ∃ t₂,
        if node.command.info.id = Toggle.enable.id ∨ t.records.disables guild Toggle.enable.id = true
        then t₁.enter now₂ line₂ = (.print "This command has been disabled in this server", some t₂) ∧
          t₂.records = t₁.records
        else t₁.enter now₂ line₂ = (.print ("Enabled `" ++ node.command.info.name ++ "` in this server"), some t₂) ∧
          t₂.records = t.records) := by
  have hsound := ht.sound
  have hswitched : t.records.Switched := hsound.calm.gates
  cases heffect : Toggle.disable.effect t.bot.registry guild words t.records with
  | mk answer after =>
    obtain ⟨t', henter', hrecords, hbot, hsession⟩ := hsound.enter_toggle hguild h₁ now₁ heffect
    rw [henter] at henter'
    obtain ⟨rfl, rfl⟩ : screen = .print (told answer) ∧ t₁ = t' := by simpa using henter'
    obtain rfl := List.mem_singleton.mp htext
    obtain ⟨name, node, hname, hlookup, rfl, rfl⟩ := effect_disable heffect hdisabled
    refine ⟨name, node, hname, hlookup, rfl, hrecords, fun hon now₂ => ?_⟩
    have hguild₁ : t₁.session.guildId = some guild := hsession ▸ hguild
    have hcalls : t₁.Calls .enable line₂ words := h₂.of_bot_eq hbot
    have hanswer := effect_enable hswitched hname hlookup hon
    rw [← hrecords, ← hbot] at hanswer
    have hsound₁ := hsound.enter henter
    by_cases hoff : node.command.info.id = Toggle.enable.id ∨ t.records.disables guild Toggle.enable.id = true
    · rw [if_pos hoff] at hanswer
      obtain ⟨t₂, henters, hafter, -, -⟩ := hsound₁.enter_toggle hguild₁ hcalls now₂ hanswer
      exact ⟨t₂, (if_pos hoff).mpr ⟨henters, hafter⟩⟩
    · rw [if_neg hoff] at hanswer
      obtain ⟨t₂, henters, hafter, -, -⟩ := hsound₁.enter_toggle hguild₁ hcalls now₂ hanswer
      exact ⟨t₂, (if_neg hoff).mpr ⟨henters, hafter⟩⟩

/-! ### A new session -/

/-- A session that has just begun. -/
structure Fresh (t : Terminal) : Prop where
  reached : t.Reached Config.standard
  server : t.session.guildId = some localGuild
  marker : t.bot.config.marker = "!"
  nodes : t.bot.registry.nodes = nodes .filled
  records : t.records = .empty

theorem exists_fresh : ∃ t, Fresh t := by
  obtain ⟨r, hr⟩ := exists_registry
  have hstart : Terminal.start Config.standard true (.start "1" (some localGuild)) 0 =
      .ok ⟨⟨r, Config.standard, []⟩, true, 0, .start "1" (some localGuild), .initial (stores 0) 0⟩ :=
    bind_eq_ok.mpr ⟨r, hr, rfl⟩
  exact ⟨_, .start hstart, rfl, rfl, (Registry.ofNodes_eq_ok hr).2, rfl⟩

namespace Fresh

variable {t : Terminal} {words : List String} {line name : String} {node : Node}

theorem lookup (h : Fresh t) (hfind : (Demo.nodes .filled).find?
    (fun n => n.command.info.hasName name || n.command.info.hasAlias name) = some node) :
    t.bot.registry.lookup name = some node := by
  rw [Registry.lookup, h.nodes, hfind]

/-- Nothing is disabled yet. -/
theorem disables (h : Fresh t) (guild : String) (id : CommandId) : t.records.disables guild id = false := by
  rw [h.records]
  rfl

theorem calls (h : Fresh t) {toggle : Toggle} (text name : String) (hline : Line.ofText line = .message line)
    (hmarker : stripMarker line "!" = some text) (hwords : Text.wordsOf text = name :: words)
    (hname : Text.alike toggle.name name = true) : t.Calls toggle line words :=
  ⟨line, text, name, hline, by rw [h.marker, hmarker], hwords, hname⟩

/-- The first line of a session disables a command. -/
theorem enter_disable (h : Fresh t) (hcalls : t.Calls .disable line words) (hname : Toggle.argument words = some name)
    (hlookup : t.bot.registry.lookup name = some node) (hother : node.command.info.id ≠ Toggle.disable.id) :
    ∃ t₁, t.enter 0 line = (.print ("Disabled `" ++ node.command.info.name ++ "` in this server"), some t₁) ∧
      t₁.records = GateRecords.empty.disable localGuild node.command.info.id.hex false ∧ t₁.bot = t.bot ∧
      t₁.session = t.session.afterMessage := by
  rw [← h.records]
  exact h.reached.sound.enter_toggle h.server hcalls 0 (effect_disable_of_lookup (h.disables _ _) hname hlookup hother)

end Fresh

theorem disable_ne_empty (guild command : String) : GateRecords.empty.disable guild command false ≠ .empty := by
  intro he
  cases congrArg (fun g : GateRecords => g.disabled.entries.length) he

/-- The command `rank` is disabled and enabled again. -/
theorem enable_after_disable_rank : ∃ t t₁ t₂ : Terminal, Fresh t ∧
    t.enter 0 "!disable rank" = (.print "Disabled `rank` in this server", some t₁) ∧ t₁.records ≠ t.records ∧
      t₁.enter 60 "!ENABLE rank" = (.print "Enabled `rank` in this server", some t₂) ∧ t₂.records = t.records := by
  obtain ⟨t, h⟩ := exists_fresh
  have hdisable : t.Calls .disable "!disable rank" ["rank"] :=
    h.calls "disable rank" "disable" (by decide) (by decide) (by decide) (by decide)
  have henable : t.Calls .enable "!ENABLE rank" ["rank"] :=
    h.calls "ENABLE rank" "ENABLE" (by decide) (by decide) (by decide) (by decide)
  have hrank : t.bot.registry.lookup "rank" = some (.leaf rank) := h.lookup rfl
  -- `decide` alone does not unfold how the bytes are listed that an id is the digest of
  set_option maxRecDepth 2000 in
  have hids : rank.info.id ≠ Toggle.disable.id ∧ rank.info.id ≠ Toggle.enable.id := by with_unfolding_all decide
  obtain ⟨t₁, henter, -, -, -⟩ := h.enter_disable hdisable rfl hrank hids.1
  obtain ⟨name, node, hname, hlookup, -, hrecords, hundo⟩ :=
    enable_after_disable h.reached h.server hdisable henable henter (List.mem_singleton_self _) (by decide)
  obtain rfl : "rank" = name := by cases hname; rfl
  obtain rfl : .leaf rank = node := Option.some.inj (hrank.symm.trans hlookup)
  have hallowed : ¬ (rank.info.id = Toggle.enable.id ∨ t.records.disables localGuild Toggle.enable.id = true) := by
    rw [h.disables]
    exact not_or.mpr ⟨hids.2, by decide⟩
  obtain ⟨t₂, hsecond⟩ := hundo (h.disables _ _) 60
  obtain ⟨henter₂, hrestored⟩ := (if_neg hallowed).mp hsecond
  refine ⟨t, t₁, t₂, h, henter, ?_, henter₂, hrestored⟩
  rw [hrecords, h.records]
  exact disable_ne_empty _ _

/-- So `disable` can be answered well, and `enable` right after take nothing back. -/
theorem not_enable_after_disable : ¬ ∀ (config : Config) (t t₁ : Terminal) (guild : String) (words : List String)
    (line₁ line₂ text : String) (now : Instant), t.Reached config → t.session.guildId = some guild →
    t.Calls .disable line₁ words → t.Calls .enable line₂ words → t.enter now line₁ = (.print text, some t₁) →
    "Disabled".toList <+: text.toList →
    (∀ name node, Toggle.argument words = some name → t.bot.registry.lookup name = some node →
      t.records.disables guild node.command.info.id = false) →
    ∃ screen t₂, t₁.enter now line₂ = (screen, some t₂) ∧ t₂.records = t.records := by
  intro hclaim
  obtain ⟨t, h⟩ := exists_fresh
  have hdisable : t.Calls .disable "!disable enable" ["enable"] :=
    h.calls "disable enable" "disable" (by decide) (by decide) (by decide) (by decide)
  have henable : t.Calls .enable "!enable enable" ["enable"] :=
    h.calls "enable enable" "enable" (by decide) (by decide) (by decide) (by decide)
  have hlookup : t.bot.registry.lookup "enable" = some (.leaf (toggle .filled .enable)) := h.lookup rfl
  set_option maxRecDepth 2000 in
  have hids : Toggle.enable.id ≠ Toggle.disable.id := by with_unfolding_all decide
  obtain ⟨t₁, henter, hrecords, hbot, hsession⟩ := h.enter_disable hdisable rfl hlookup hids
  have hoff : t₁.records.disables localGuild Toggle.enable.id = true := by
    rw [hrecords, disables_disable]
    exact Bool.or_eq_true_iff.mpr (.inl (decide_eq_true rfl))
  have hrefused : Toggle.enable.effect t₁.bot.registry localGuild ["enable"] t₁.records =
      (.error (.permissionDenied "This command has been disabled in this server"), t₁.records) := by
    rw [Toggle.effect, if_pos hoff]
  have hcalls : t₁.Calls .enable "!enable enable" ["enable"] := henable.of_bot_eq hbot
  have hserver : t₁.session.guildId = some localGuild := hsession ▸ h.server
  obtain ⟨t₂, henter₂, hkept, -, -⟩ := (h.reached.sound.enter henter).enter_toggle hserver hcalls 0 hrefused
  obtain ⟨screen, t₃, henter₃, hrestored⟩ := hclaim Config.standard t t₁ localGuild ["enable"] _ _ _ 0 h.reached
    h.server hdisable henable henter (by decide) fun _ _ _ _ => h.disables _ _
  rw [henter₂] at henter₃
  cases henter₃
  rw [hkept, hrecords, h.records] at hrestored
  exact disable_ne_empty _ _ hrestored

end ChatBot.Demo
