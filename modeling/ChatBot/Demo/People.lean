/-
  ChatBot.Demo.People — the people of the demonstration bot, and the stores that know
  them: two who have linked an account and one who has not.
-/
import ChatBot.Service.Stores

namespace ChatBot.Demo

/-- The server of messages that name no other. -/
def localGuild : String := "local"

def people : List PlatformUser :=
  [⟨"1", "joe", some "Joe", false⟩, ⟨"2", "ana", some "Ana", false⟩, ⟨"3", "sam", none, false⟩]

def person? (id : String) : Option PlatformUser := people.find? (·.id == id)

/-- The user of an id, under a made-up name if nobody has it. -/
def personOrStranger (id : String) : PlatformUser := (person? id).getD ⟨id, "user" ++ id, none, false⟩

/-- The linked accounts; the first one has a credential and was indexed just now. -/
def identities (now : Instant) : IdentityStore :=
  (IdentityStore.empty.insert ⟨"1", some "joe_lfm", some "demo-session", some now⟩).insert
    ⟨"2", some "ana_lfm", none, none⟩

def directory : Directory := people.foldl (fun d u => d.addMember localGuild u) .empty

/-- The stores at the start; there is no analytics service. -/
def stores (now : Instant) : Stores :=
  { Stores.empty with identities := identities now, directory := some directory }

end ChatBot.Demo
