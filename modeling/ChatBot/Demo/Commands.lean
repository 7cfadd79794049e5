/-
  ChatBot.Demo.Commands — the commands of the demonstration bot.

  No music service is asked: every number is derived from the account's name (`spread`),
  so that the same command always gets the same answer.
-/
import ChatBot.Command.Registry
import ChatBot.Demo.People

namespace ChatBot.Demo

open Text

/-- A number below `modulus` that a text stands for. -/
def spread (text : String) (modulus : UInt64) : UInt64 :=
  (Digest.utf8 text).foldl (fun n b => n * 31 + b.toUInt64) 7 % modulus

/-! ## Scrobbles -/

/-- How many scrobbles an account has, in all or over a period. -/
def scrobbleCount (account : String) (inAll : Bool) : UInt64 :=
  if inAll then spread account 90000 + 10000 else spread account 900 + 1

def runScrobbles (ctx : Context) : Program :=
  .withMentions .standard fun m =>
    let weekly := ctx.usedVariation "weekly"
    let inAll := ((ctx.args.period? "timeRange").getD .overall).isOverall && !weekly
    let wording := if weekly then "over the past week" else (ctx.args.text? "humanizedPeriod").getD "overall"
    .say ctx (capitalize m.perspective.has ++ " " ++ toString (scrobbleCount (m.username.getD "") inAll).toNat ++
      " scrobbles " ++ wording)

def period : String × InputSpec :=
  ("timeRange", { InputSpec.plain .whole with transform := some .timeRange })

def scrobbles : Command :=
  { Command.simple { CommandInfo.make "scrobbles" "scrobbles" with
      aliases := ["s"]
      variations := [⟨"weekly", ["sw", "scrobblesweek"], some "Scrobbles this week"⟩]
      description := "Shows how many scrobbles a user has over a period" } (.ofRun runScrobbles) with
    schema := ⟨[period, ("humanizedPeriod", { InputSpec.plain .whole with transform := some .humanizedTimeRange })],
      MentionSpec.standard, []⟩ }

/-! ## Rank -/

def artists : List String := ["Red Velvet", "Loona", "Dreamcatcher", "Everglow", "Weeekly"]

def artistAt (account : String) (rank : Nat) : String :=
  artists.getD (((spread account 5).toNat + rank) % artists.length) ""

def runRank (ctx : Context) : Program :=
  let rank := Decimal.Binary64.toNat ((ctx.args.number? "rank").getD 1)
  .withMentions .standard fun m =>
    .say ctx (capitalize m.perspective.possessive ++ " #" ++ toString rank ++ " artist is " ++
      artistAt (m.username.getD "") rank)

/-- A number read at the first place, with a default. -/
def numberInput (fallback : Float) : InputSpec :=
  { InputSpec.plain (.single 0) with fallback := some (.number fallback), number := true }

def rank : Command :=
  { Command.simple { CommandInfo.make "rank" "rank" with
      aliases := ["r"]
      description := "Shows the artist at a rank in a user's library" } (.ofRun runRank) with
    schema := ⟨[("rank", numberInput 1)], MentionSpec.standard, []⟩
    rules := [⟨"rank", .number true, none⟩, ⟨"rank", .range (some 1) (some 1000), some "rank"⟩] }

/-! ## Cover -/

def runCover (ctx : Context) : Program :=
  match ctx.args.text? "artist", ctx.args.text? "album" with
  | some artist, some album => .say ctx ("Cover for " ++ album ++ " by " ++ artist ++ ": [image]")
  | _, _ => .fail (.logic "please give an artist and an album" (some "e.g. !cover Red Velvet | The ReVe Festival"))

/-- A piece of the text between bars. -/
def piece (place : UInt64) : InputSpec := { InputSpec.plain (.single place) with splitOn := some "|" }

def cover : Command :=
  { Command.simple { CommandInfo.make "cover" "cover" with
      friendlyName := some "Album cover"
      description := "Shows the cover for an album" } (.ofRun runCover) with
    schema := ⟨[("artist", piece 0), ("album", piece 1)], [], []⟩ }

/-! ## Recent -/

def trackLines (amount : Nat) : List String :=
  (List.range amount).map fun n => toString (n + 1) ++ ". track " ++ toString (n + 1)

def runRecent (ctx : Context) : Program :=
  let amount := Decimal.Binary64.toNat ((ctx.args.number? "amount").getD 5)
  .say ctx ("\n".intercalate (trackLines amount))

def recent : Command :=
  { Command.simple { CommandInfo.make "recent" "recent" with
      aliases := ["recents"]
      description := "Shows recent tracks" } (.ofRun runRecent) with
    schema := ⟨[("amount", { numberInput 5 with pattern := some (.atLeastOne isDecimal) })], MentionSpec.standard, []⟩
    rules := [⟨"amount", .range (some 1) (some 15), some "amount of recent tracks"⟩]
    loadingAfter := some 500 }

/-! ## Reacts -/

def runReacts (ctx : Context) : Program :=
  match (ctx.args.list? "emojis").getD [] with
  | [] => .fail (.logic "please list some emojis to react with" none)
  | emojis => .say ctx ("Your reactions are now " ++ unwords emojis)

def reactsClear : Command :=
  .simple { CommandInfo.make "reactsclear" "reacts clear" with description := "Clears your reactions" }
    (.ofRun fun ctx => .say ctx "Your reactions have been cleared")

def wantsClear (args : ParsedArgs) : Bool := (args.text? "clear").any (alike · "clear")

def reacts : Command :=
  { Command.simple { CommandInfo.make "reacts" "reacts" with
      aliases := ["reactions"]
      description := "Sets the reactions the bot adds to your now playing" } (.ofRun runReacts) with
    schema := ⟨[("clear", .plain (.single 0)), ("emojis", { InputSpec.plain .whole with transform := some .emoji })],
      [], []⟩
    delegates := [(wantsClear, reactsClear)] }

/-! ## RateYourMusic -/

/-- Says what a child of the parent does. -/
def runRating (action : String) (ctx : Context) : Program :=
  let parent := (ctx.parent.map (·.displayName)).getD ""
  .say ctx (parent ++ " " ++ ctx.command.displayName ++ ": " ++ action)

def linking : String := "links your RateYourMusic account"

def rateYourMusic : ParentCommand where
  command := .simple { CommandInfo.make "rateyourmusic" "rateyourmusic" with
      aliases := ["rym"]
      friendlyName := some "RateYourMusic"
      description := "RateYourMusic integration" } (.ofRun (runRating linking))
  children := [
    .simple { CommandInfo.make "rym-link" "link" with friendlyName := some "link" } (.ofRun (runRating linking)),
    .simple { CommandInfo.make "rym-import" "import" with friendlyName := some "import ratings" }
      (.ofRun (runRating "import started")),
    .simple { CommandInfo.make "rym-ratings" "ratings" with aliases := ["rymratings"] }
      (.ofRun (runRating "here are your ratings"))]
  defaultChild := some "link"
  direct := ["ratings"]
  abbreviationMin := some 3

/-! ## Going back -/

def runGoBack (ctx : Context) : Program :=
  match ((ctx.args.period? "timeRange").getD .overall).start with
  | some start => .say ctx ("Going back to " ++ Calendar.minuteText start)
  | none => .fail (.unknown "time range validated without a start")

def goBack : Command :=
  { Command.simple { CommandInfo.make "goback" "goback" with
      aliases := ["gb"]
      description := "Shows what you were listening to some time ago"
      rollout := some (.make [localGuild] (some 50)) } (.ofRun runGoBack) with
    schema := ⟨[period], MentionSpec.standard, []⟩
    rules := [⟨"timeRange", .timeRange true true, some "time period"⟩] }

/-! ## Login -/

def runLogin (ctx : Context) : Program :=
  match ctx.args.text? "username" with
  | none => .fail (.logic "please give your last.fm username" none)
  | some username =>
    .keepIdentity ⟨ctx.message.author.id, some username, none, none⟩ <|
      .say ctx ("Logged in as " ++ username)

def login : Command :=
  { Command.simple { CommandInfo.make "login" "login" with description := "Links your last.fm account" } (.ofRun runLogin) with
    schema := ⟨[("username", .plain (.single 0))], [], []⟩
    rules := [⟨"username", .required, none⟩] }

/-! ## Disabling and enabling -/

/-- Whether a command goes off or on. -/
inductive Toggle where
  | disable | enable
  deriving DecidableEq

def Toggle.name : Toggle → String
  | .disable => "disable"
  | .enable => "enable"

/-- Where the toggles find the registry that they look commands up in. They are a part of
    it, so it is put there once it is complete. -/
inductive Cell where
  | empty | filled
  deriving DecidableEq

/-- A server is needed. -/
def checkServer (ctx : Context) : Program :=
  match ctx.message.guildId with
  | none => .fail (.logic "this command can only be used in a server" none)
  | some _ => .done

/-- Changes the state of a command in a server and says what was done. -/
def applyToggle (toggle : Toggle) (ctx : Context) (target : CommandInfo) : Program :=
  let guild := ctx.message.guildId.getD localGuild
  let say (text : String) : Program := .say ctx text
  match toggle with
  | .disable => .disable guild target.id.hex false <| say ("Disabled `" ++ target.name ++ "` in this server")
  | .enable => .enable guild target.id.hex fun was =>
    if was then say ("Enabled `" ++ target.name ++ "` in this server")
    else say ("`" ++ target.name ++ "` wasn't disabled")

def runToggle (cell : Cell) (toggle : Toggle) (ctx : Context) : Program :=
  let name := (ctx.args.text? "command").getD ""
  match cell with
  | .empty => .fail (.unknown "command registry is not ready")
  | .filled => .lookup name fun
    | none => .fail (.notFound ("Command `" ++ name ++ "`"))
    | some target =>
      if target.id == ctx.command.id || ctx.parent.isSome then .fail (.logic "you can't toggle this command" none)
      else applyToggle toggle ctx target

def toggle (cell : Cell) (t : Toggle) : Command :=
  { Command.simple (.make t.name t.name) ⟨checkServer, runToggle cell t⟩ with
    schema := ⟨[("command", .plain (.single 0))], [], [("force", ⟨["force"], ["f"]⟩)]⟩
    rules := [⟨"command", .required, none⟩] }

/-! ## For developers -/

def eval : Command :=
  { Command.simple { CommandInfo.make "eval" "eval" with dev := true } (.ofRun runRecent) with
    schema := ⟨[], [("target", ⟨.single 0, true, none⟩)], []⟩ }

/-! ## All of them -/

def nodes (cell : Cell) : List Node := [
  .leaf scrobbles, .leaf rank, .leaf cover, .leaf recent, .leaf reacts, .parent rateYourMusic, .leaf goBack,
  .leaf login, .leaf (toggle cell .disable), .leaf (toggle cell .enable), .leaf eval]

def registry (cell : Cell) : Except RegistryError Registry := Registry.ofNodes (nodes cell)

end ChatBot.Demo
