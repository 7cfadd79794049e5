/-
  ChatBot.Proofs.Gate.History — the gate as a function of what the admins decided.

  The records forget most of a history: of the switches of a command in a server only the
  last counts (`status_ofHistory`), of its blacklisted channels and of its permissions only
  which there are (`mem_channelsOf_ofHistory`, `mem_permissionsOf_ofHistory`). `check_decided`
  puts these together: when a command may run, when its denial is silent, and that nothing
  else in the history counts.
-/
import Mathlib.Data.List.Induction
import ChatBot.Gate

namespace ChatBot

/-! ## What a history leaves -/

namespace AdminStep

/-- Disables or enables this command of this server. -/
def switches (guild command : String) : AdminStep → Bool
  | .disable g c _ => g == guild && c == command
  | .enable g c => g == guild && c == command
  | _ => false

/-- The state in which a switch leaves a command. -/
def leaves : AdminStep → DisabledStatus
  | .disable _ _ devOnly => ⟨true, devOnly⟩
  | _ => ⟨false, false⟩

/-- Is about this command of this server. -/
def concerns (guild command : String) : AdminStep → Bool
  | .disable g c _ => g == guild && c == command
  | .enable g c => g == guild && c == command
  | .permit r => r.guildId == guild && r.commandId == command
  | .blacklist g c _ => g == guild && c == command

end AdminStep

namespace GateRecords

variable (g : GateRecords) (step : AdminStep) (history : List AdminStep) (guild command channel : String)

theorem status_apply : (step.apply g).status guild command =
    if step.switches guild command then step.leaves else g.status guild command := by
  cases step with
  | disable g' c devOnly =>
    simp only [AdminStep.apply, disable, status, Dict.get?_insert, AdminStep.switches, AdminStep.leaves]
    by_cases h : (guild, command) = (g', c)
    · obtain ⟨rfl, rfl⟩ := Prod.mk.inj h
      simp
    · have : ¬ (g' = guild ∧ c = command) := fun ⟨h1, h2⟩ => h (by rw [h1, h2])
      simp [h, this]
  | enable g' c =>
    simp only [AdminStep.apply, enable, status, Dict.get?_erase, AdminStep.switches, AdminStep.leaves]
    by_cases h : (guild, command) = (g', c)
    · obtain ⟨rfl, rfl⟩ := Prod.mk.inj h
      simp
    · have : ¬ (g' = guild ∧ c = command) := fun ⟨h1, h2⟩ => h (by rw [h1, h2])
      simp [h, this]
  | permit r => rfl
  | blacklist g' c channel => rfl

theorem mem_channelsOf_apply : channel ∈ (step.apply g).channelsOf guild command ↔
    channel ∈ g.channelsOf guild command ∨ step = .blacklist guild command channel := by
  cases step with
  | blacklist g' c channel' =>
    simp only [AdminStep.apply, blacklistChannel, channelsOf, Dict.get?_insert, AdminStep.blacklist.injEq]
    by_cases h : (guild, command) = (g', c)
    · obtain ⟨rfl, rfl⟩ := Prod.mk.inj h
      simp [eq_comm]
    · have : ¬ (g' = guild ∧ c = command) := fun ⟨h1, h2⟩ => h (by rw [h1, h2])
      simp only [if_neg h]
      tauto
  | disable g' c devOnly => simp [AdminStep.apply, disable, channelsOf]
  | enable g' c => simp [AdminStep.apply, enable, channelsOf]
  | permit r => simp [AdminStep.apply, addPermission, channelsOf]

theorem mem_permissionsOf_apply (r : PermissionRecord) : r ∈ (step.apply g).permissionsOf guild command ↔
    r ∈ g.permissionsOf guild command ∨ step = .permit r ∧ r.guildId = guild ∧ r.commandId = command := by
  cases step with
  | permit r' =>
    simp only [AdminStep.apply, addPermission, permissionsOf, List.filter_append, List.mem_append,
      List.mem_filter, List.mem_singleton, Bool.and_eq_true, beq_iff_eq, AdminStep.permit.injEq, @eq_comm _ r']
  | disable g' c devOnly => simp [AdminStep.apply, disable, permissionsOf]
  | enable g' c => simp [AdminStep.apply, enable, permissionsOf]
  | blacklist g' c channel => simp [AdminStep.apply, blacklistChannel, permissionsOf]

theorem ofHistory_concat : ofHistory (history ++ [step]) = step.apply (ofHistory history) := by
  rw [ofHistory, List.foldl_append]
  rfl

/-- The last switch counts. -/
theorem status_ofHistory : (ofHistory history).status guild command =
    ((history.filter (·.switches guild command)).getLast?.map AdminStep.leaves).getD ⟨false, false⟩ := by
  induction history using List.reverseRecOn with
  | nil => rfl
  | append_singleton history step ih =>
    rw [ofHistory_concat, status_apply, List.filter_append]
    cases hs : step.switches guild command with
    | true => simp [hs]
    | false => simpa [hs] using ih

theorem disabled_ofHistory : ((ofHistory history).status guild command).disabled = true ↔
    ∃ devOnly, (history.filter (·.switches guild command)).getLast? = some (.disable guild command devOnly) := by
  rw [status_ofHistory]
  cases hlast : (history.filter (·.switches guild command)).getLast? with
  | none => simp
  | some step =>
    have hs : step.switches guild command = true := (List.mem_filter.mp (List.mem_of_getLast? hlast)).2
    cases step with
    | disable g c devOnly =>
      obtain ⟨rfl, rfl⟩ : g = guild ∧ c = command := by simpa [AdminStep.switches] using hs
      simp [AdminStep.leaves]
    | enable g c => simp [AdminStep.leaves]
    | permit r => cases hs
    | blacklist g c channel => cases hs

theorem mem_channelsOf_ofHistory : channel ∈ (ofHistory history).channelsOf guild command ↔
    .blacklist guild command channel ∈ history := by
  induction history using List.reverseRecOn with
  | nil => simp [ofHistory, empty, channelsOf, Dict.get?, Dict.empty]
  | append_singleton history step ih =>
    rw [ofHistory_concat, mem_channelsOf_apply, ih, List.mem_append, List.mem_singleton, eq_comm (a := step)]

theorem mem_permissionsOf_ofHistory (r : PermissionRecord) : r ∈ (ofHistory history).permissionsOf guild command ↔
    .permit r ∈ history ∧ r.guildId = guild ∧ r.commandId = command := by
  induction history using List.reverseRecOn with
  | nil => simp [ofHistory, empty, permissionsOf]
  | append_singleton history step ih =>
    rw [ofHistory_concat, mem_permissionsOf_apply, ih, List.mem_append, List.mem_singleton, eq_comm (a := step),
      or_and_right]

end GateRecords

/-! ## The parts of the gate -/

namespace Gate

open CommandError (orFail)

variable {stores : Stores} {guild : String} {message : InboundMessage} {command : CommandInfo}

theorem checkEach_eq_ok {check : CommandInfo → Except CommandError Unit} {cs : List CommandInfo} :
    checkEach check cs = .ok () ↔ ∀ c ∈ cs, check c = .ok () := by
  induction cs with
  | nil => simp [checkEach]
  | cons c cs ih =>
    rw [checkEach, List.forall_mem_cons, ← ih]
    cases check c with
    | error e => simp [bind, Except.bind]
    | ok u => exact ⟨fun h => ⟨rfl, h⟩, fun h => h.2⟩

theorem checkEach_error {check : CommandInfo → Except CommandError Unit} {cs : List CommandInfo} {e : CommandError}
    (h : checkEach check cs = .error e) : ∃ c ∈ cs, check c = .error e := by
  induction cs with
  | nil => cases h
  | cons c cs ih =>
    rw [checkEach] at h
    cases hc : check c with
    | error e' =>
      rw [hc] at h
      cases h
      exact ⟨c, List.mem_cons_self, hc⟩
    | ok u =>
      rw [hc] at h
      obtain ⟨d, hd, he⟩ := ih h
      exact ⟨d, List.mem_cons_of_mem _ hd, he⟩

theorem checkEach_congr {check check' : CommandInfo → Except CommandError Unit} {cs : List CommandInfo}
    (h : ∀ c ∈ cs, check c = check' c) : checkEach check cs = checkEach check' cs := by
  induction cs with
  | nil => rfl
  | cons c cs ih =>
    rw [checkEach, checkEach, h c List.mem_cons_self, ih fun d hd => h d (List.mem_cons_of_mem _ hd)]

/-- The record names the author or one of their roles. -/
def Names (message : InboundMessage) (r : PermissionRecord) : Prop :=
  r.entity = .user ∧ r.entityId = message.author.id ∨ r.entity = .role ∧ r.entityId ∈ message.authorRoles

theorem appliesTo_iff {r : PermissionRecord} : appliesTo message r = true ↔ Names message r := by
  unfold appliesTo Names
  cases r.entity <;> simp

theorem checkPermissions_eq_ok {records : List PermissionRecord} : checkPermissions message records = .ok () ↔
    (∀ r ∈ records, r.kind = .blacklist → ¬ Names message r) ∧
      ((∃ r ∈ records, r.kind = .whitelist) → ∃ r ∈ records, r.kind = .whitelist ∧ Names message r) := by
  have hblack : (records.filter (·.kind == .blacklist)).any (appliesTo message) = true ↔
      ∃ r ∈ records, r.kind = .blacklist ∧ Names message r := by simp [appliesTo_iff]
  have hwhite : (records.filter (·.kind == .whitelist)).any (appliesTo message) = true ↔
      ∃ r ∈ records, r.kind = .whitelist ∧ Names message r := by simp [appliesTo_iff]
  have hempty : (records.filter (·.kind == .whitelist)).isEmpty = false ↔ ∃ r ∈ records, r.kind = .whitelist := by
    simp [List.isEmpty_eq_false_iff, List.filter_eq_nil_iff]
  rw [← hempty, ← hwhite, checkPermissions]
  dsimp only
  generalize (records.filter (·.kind == .whitelist)).isEmpty = empty
  generalize (records.filter (·.kind == .whitelist)).any (appliesTo message) = listed
  split
  · rename_i h
    obtain ⟨r, hr, hk, hn⟩ := hblack.mp h
    exact iff_of_false (by simp) fun h' => h'.1 r hr hk hn
  · rename_i h
    have hno : ∀ r ∈ records, r.kind = .blacklist → ¬ Names message r :=
      fun r hr hk hn => h (hblack.mpr ⟨r, hr, hk, hn⟩)
    rw [and_iff_right hno]
    cases empty <;> cases listed <;> simp

theorem checkPermissions_congr {records records' : List PermissionRecord} (h : ∀ r, r ∈ records ↔ r ∈ records') :
    checkPermissions message records = checkPermissions message records' := by
  have hany : ∀ p q, (records.filter p).any q = (records'.filter p).any q := by
    intro p q
    rw [Bool.eq_iff_iff]
    simp only [List.any_eq_true, List.mem_filter, h]
  have hempty : ∀ p, (records.filter p).isEmpty = (records'.filter p).isEmpty := by
    intro p
    rw [Bool.eq_iff_iff]
    simp only [List.isEmpty_iff, List.filter_eq_nil_iff, h]
  simp only [checkPermissions, hany, hempty]

/-! ## Denials -/

theorem checkPermissions_error {records : List PermissionRecord} {e : CommandError}
    (h : checkPermissions message records = .error e) : e.isSilent = false := by
  unfold checkPermissions at h
  dsimp only at h
  split at h
  · cases h; rfl
  split at h <;> cases h
  rfl

theorem checkEnabled_error {e : CommandError} (h : checkEnabled stores guild command = .error e) :
    e.isSilent = false := by
  rcases bind_eq_error.mp h with hs | ⟨status, -, hd⟩
  · obtain ⟨cause, -, rfl⟩ := CommandError.orFail_eq_error.mp hs
    rfl
  · split at hd
    · cases hd
    split at hd <;> cases hd <;> rfl

theorem checkAllowed_error {e : CommandError} (h : checkAllowed stores guild message command = .error e) :
    e.isSilent = false := by
  rcases bind_eq_error.mp h with hs | ⟨channels, -, hd⟩
  · obtain ⟨cause, -, rfl⟩ := CommandError.orFail_eq_error.mp hs
    rfl
  split at hd
  · cases hd; rfl
  rcases bind_eq_error.mp hd with hs | ⟨records, -, hp⟩
  · obtain ⟨cause, -, rfl⟩ := CommandError.orFail_eq_error.mp hs
    rfl
  · exact checkPermissions_error hp

/-! ## After a history -/

/-- The services of a bot, all of which answer, once the admins have decided. -/
def decided (stores : Stores) (history : List AdminStep) : Stores :=
  { stores with gates := .ofHistory history, outages := fun _ => none }

/-- No developers' command, or a developer. -/
def Cleared (developers : List String) (chain : List CommandInfo) (message : InboundMessage) : Prop :=
  (∀ c ∈ chain, c.dev = false) ∨ message.author.id ∈ developers

/-- The last switch of a command in a server, if any, is no disabling. -/
def StaysOn (history : List AdminStep) (guild : String) (command : CommandInfo) : Prop :=
  ∀ devOnly, (history.filter (·.switches guild command.id.hex)).getLast? ≠
    some (.disable guild command.id.hex devOnly)

/-- A permission of a kind that was made for a command in a server. -/
def Recorded (history : List AdminStep) (guild : String) (command : CommandInfo) (kind : PermissionKind)
    (r : PermissionRecord) : Prop :=
  .permit r ∈ history ∧ r.guildId = guild ∧ r.commandId = command.id.hex ∧ r.kind = kind

/-- No channel and no permission keeps the author of a message away. -/
structure OpenTo (history : List AdminStep) (guild : String) (message : InboundMessage) (command : CommandInfo) :
    Prop where
  channel : .blacklist guild command.id.hex message.channelId ∉ history
  blacklist : ∀ r, Recorded history guild command .blacklist r → ¬ Names message r
  whitelist : (∃ r, Recorded history guild command .whitelist r) →
    ∃ r, Recorded history guild command .whitelist r ∧ Names message r

/-- Two histories switched a command of a server alike, and made the same other decisions
    about it, in whatever order and however often. -/
def Agree (history history' : List AdminStep) (guild : String) (command : CommandInfo) : Prop :=
  history.filter (·.switches guild command.id.hex) = history'.filter (·.switches guild command.id.hex) ∧
    ∀ step, step.concerns guild command.id.hex = true → (step ∈ history ↔ step ∈ history')

variable {history history' : List AdminStep}

theorem status_decided {id : String} : orFail ((decided stores history).disabledStatus guild id) =
    .ok ((GateRecords.ofHistory history).status guild id) := rfl

theorem channels_decided {id : String} : orFail ((decided stores history).channels guild id) =
    .ok ((GateRecords.ofHistory history).channelsOf guild id) := rfl

theorem permissions_decided {id : String} : orFail ((decided stores history).permissions guild id) =
    .ok ((GateRecords.ofHistory history).permissionsOf guild id) := rfl

theorem checkEnabled_decided : checkEnabled (decided stores history) guild command = .ok () ↔
    StaysOn history guild command := by
  rw [StaysOn, ← not_exists, ← GateRecords.disabled_ofHistory, checkEnabled, status_decided]
  simp only [bind, Except.bind]
  cases ((GateRecords.ofHistory history).status guild command.id.hex).disabled
  · simp
  · simp only [Bool.not_true, Bool.false_eq_true, if_false, not_true_eq_false, iff_false]
    split <;> nofun

theorem checkAllowed_decided : checkAllowed (decided stores history) guild message command = .ok () ↔
    OpenTo history guild message command := by
  rw [checkAllowed, channels_decided, permissions_decided]
  simp only [bind, Except.bind, List.contains_iff_mem, GateRecords.mem_channelsOf_ofHistory]
  split
  · rename_i hc
    exact iff_of_false (by simp) fun h => h.channel hc
  · rename_i hc
    rw [checkPermissions_eq_ok]
    simp only [GateRecords.mem_permissionsOf_ofHistory]
    constructor
    · rintro ⟨hb, hw⟩
      refine ⟨hc, fun r hr => hb r ⟨hr.1, hr.2.1, hr.2.2.1⟩ hr.2.2.2, fun ⟨r, hr⟩ => ?_⟩
      obtain ⟨r', hr', hk, hn⟩ := hw ⟨r, ⟨hr.1, hr.2.1, hr.2.2.1⟩, hr.2.2.2⟩
      exact ⟨r', ⟨hr'.1, hr'.2.1, hr'.2.2, hk⟩, hn⟩
    · rintro ⟨-, hb, hw⟩
      refine ⟨fun r hr hk => hb r ⟨hr.1, hr.2.1, hr.2.2, hk⟩, fun ⟨r, hr, hk⟩ => ?_⟩
      obtain ⟨r', hr', hn⟩ := hw ⟨r, hr.1, hr.2.1, hr.2.2, hk⟩
      exact ⟨r', ⟨hr'.1, hr'.2.1, hr'.2.2.1⟩, hr'.2.2.2, hn⟩

theorem checkEnabled_congr (h : Agree history history' guild command) :
    checkEnabled (decided stores history) guild command = checkEnabled (decided stores history') guild command := by
  rw [checkEnabled, checkEnabled, status_decided, status_decided, GateRecords.status_ofHistory,
    GateRecords.status_ofHistory, h.1]

theorem checkAllowed_congr (h : Agree history history' guild command) :
    checkAllowed (decided stores history) guild message command =
      checkAllowed (decided stores history') guild message command := by
  have hchannels : ((GateRecords.ofHistory history).channelsOf guild command.id.hex).contains message.channelId =
      ((GateRecords.ofHistory history').channelsOf guild command.id.hex).contains message.channelId := by
    rw [Bool.eq_iff_iff, List.contains_iff_mem, List.contains_iff_mem, GateRecords.mem_channelsOf_ofHistory,
      GateRecords.mem_channelsOf_ofHistory]
    exact h.2 _ (by simp [AdminStep.concerns])
  have hrecords : checkPermissions message ((GateRecords.ofHistory history).permissionsOf guild command.id.hex) =
      checkPermissions message ((GateRecords.ofHistory history').permissionsOf guild command.id.hex) := by
    refine checkPermissions_congr fun r => ?_
    rw [GateRecords.mem_permissionsOf_ofHistory, GateRecords.mem_permissionsOf_ofHistory]
    refine and_congr_left fun hr => h.2 _ ?_
    simp [AdminStep.concerns, hr.1, hr.2]
  rw [checkAllowed, checkAllowed, channels_decided, permissions_decided, channels_decided, permissions_decided]
  simp only [bind, Except.bind, hchannels, hrecords]

variable {developers : List String} {parent : Option CommandInfo}

theorem developersOnly_iff {chain : List CommandInfo} :
    (chain.any (·.dev) && !developers.contains message.author.id) = true ↔ ¬ Cleared developers chain message := by
  simp [Cleared, not_or]

/-- The gate asks the same of every command of the chain. -/
theorem check_eq_ok_iff : check developers stores command parent message = .ok () ↔
    Cleared developers (command :: parent.toList) message ∧
      ∀ guild, message.guildId = some guild → ∀ c ∈ command :: parent.toList, checkEnabled stores guild c = .ok () ∧
        (message.author.id ∉ developers → checkAllowed stores guild message c = .ok ()) := by
  unfold check
  dsimp only
  split
  · rename_i hdev
    exact iff_of_false (by simp) fun h => developersOnly_iff.mp hdev h.1
  rename_i hdev
  rw [and_iff_right (not_not.mp (mt developersOnly_iff.mpr hdev))]
  cases message.guildId with
  | none => simp
  | some guild =>
    simp only [Option.some.injEq, forall_eq', bind_eq_ok]
    constructor
    · rintro ⟨⟨⟩, hon, hopen⟩ c hc
      refine ⟨checkEach_eq_ok.mp hon c hc, fun hd => ?_⟩
      rw [if_neg (by simpa using hd)] at hopen
      exact checkEach_eq_ok.mp hopen c hc
    · intro h
      refine ⟨(), checkEach_eq_ok.mpr fun c hc => (h c hc).1, ?_⟩
      split
      · rfl
      · rename_i hd
        exact checkEach_eq_ok.mpr fun c hc => (h c hc).2 (by simpa using hd)

theorem check_eq_ok : check developers (decided stores history) command parent message = .ok () ↔
    Cleared developers (command :: parent.toList) message ∧
      ∀ guild, message.guildId = some guild → ∀ c ∈ command :: parent.toList, StaysOn history guild c ∧
        (message.author.id ∉ developers → OpenTo history guild message c) := by
  simp only [check_eq_ok_iff, checkEnabled_decided, checkAllowed_decided]

theorem check_silent {e : CommandError} (h : check developers stores command parent message = .error e) :
    e.isSilent = true ↔ ¬ Cleared developers (command :: parent.toList) message := by
  unfold check at h
  dsimp only at h
  split at h
  · rename_i hdev
    cases h
    exact iff_of_true rfl (developersOnly_iff.mp hdev)
  rename_i hdev
  refine iff_of_false ?_ (mt developersOnly_iff.mpr hdev)
  rw [Bool.not_eq_true]
  split at h
  · cases h
  rcases bind_eq_error.mp h with h | ⟨_, -, h⟩
  · obtain ⟨c, -, hc⟩ := checkEach_error h
    exact checkEnabled_error hc
  split at h
  · cases h
  · obtain ⟨c, -, hc⟩ := checkEach_error h
    exact checkAllowed_error hc

theorem check_congr (h : ∀ guild, message.guildId = some guild → ∀ c ∈ command :: parent.toList,
    Agree history history' guild c) : check developers (decided stores history) command parent message =
      check developers (decided stores history') command parent message := by
  unfold check
  dsimp only
  cases hg : message.guildId with
  | none => rfl
  | some guild =>
    have hon : ∀ c ∈ command :: parent.toList, checkEnabled (decided stores history) guild c =
        checkEnabled (decided stores history') guild c := fun c hc => checkEnabled_congr (h guild hg c hc)
    have hopen : ∀ c ∈ command :: parent.toList, checkAllowed (decided stores history) guild message c =
        checkAllowed (decided stores history') guild message c := fun c hc => checkAllowed_congr (h guild hg c hc)
    dsimp only
    rw [checkEach_congr hon, checkEach_congr hopen]

/-- The gate opens when the command is no developers' or the author is one, and when, in a
    server, the last switch of the command and of its parent is no disabling and, for
    others than developers, no channel and no permission keeps the author away. A denial is
    silent when it is the first of these that failed. Nothing else in the history counts. -/
theorem check_decided (developers : List String) (stores : Stores) (history : List AdminStep) (command : CommandInfo)
    (parent : Option CommandInfo) (message : InboundMessage) :
    let chain := command :: parent.toList
    let verdict := fun history => check developers (decided stores history) command parent message
    (verdict history = .ok () ↔ Cleared developers chain message ∧
      ∀ guild, message.guildId = some guild → ∀ c ∈ chain, StaysOn history guild c ∧
        (message.author.id ∉ developers → OpenTo history guild message c)) ∧
    (∀ e, verdict history = .error e → (e.isSilent = true ↔ ¬ Cleared developers chain message)) ∧
    ∀ history', (∀ guild, message.guildId = some guild → ∀ c ∈ chain, Agree history history' guild c) →
      verdict history' = verdict history :=
  ⟨check_eq_ok, fun _ => check_silent, fun _ h => (check_congr h).symm⟩

end Gate

end ChatBot
