import ChatSpaces.Posting
import ChatSpaces.Service.Action

/-!
# Messages and media

Posting and editing pass the posting gate in the same unit of work as the write. Media is attached to any
message that can be seen; a message is deleted by its author or by those who moderate its space.
-/

namespace ChatSpaces.Service

open Service.Action

/-- What the gate looks at for a user in a channel that is not deleted: the restraint on the channel
comes before the one on its space. -/
def postingContext? (c : Context) (t : Tables) (channel user : Ident) : Option PostingContext :=
  (t.channelInSpace? .live channel).map fun joined => {
    channel := joined.channel
    space := some joined.space
    isMember := (t.channelMember? channel user).isSome
    restraints := (t.restraint? (.channel channel) user).toList
      ++ (t.restraint? (.space joined.space.id) user).toList
    now := c.now }

def verdict? (c : Context) (t : Tables) (channel user : Ident) : Option (Option Violation) :=
  (postingContext? c t channel user).map (·.violation? c.policy)

def canPost (c : Context) (channel user : Ident) : Action Bool := do
  openUnit
  see fun t => decide (verdict? c t channel user = some none)

def postMessage (c : Context) (channel author : Ident) (r : PostMessage) : Action Message := do
  check r.problems
  openUnit
  permit (← demand (verdict? c · channel author) (.channelNotFound channel))
  let m : Message := ⟨← freshIdent c, channel, author, r.body, false, c.now, c.now⟩
  write (·.insertMessage m)
  commitUnit
  return m

def editMessage (c : Context) (actor message : Ident) (r : EditMessage) : Action Message := do
  check r.problems
  openUnit
  let m ← demandMessage .live message
  if !m.isAuthor actor then fail (.violation .notAuthor)
  permit (← demand (verdict? c · m.channel actor) (.messageNotFound message))
  let edited := m.edit r.body c.now
  changeOr (·.updateMessage? edited) (.messageNotFound message)
  commitUnit
  return edited

def attachMedia (c : Context) (message : Ident) (r : AttachMedia) : Action Media := do
  check r.problems
  openUnit
  let _ ← demandMessage .live message
  let made : Media := ⟨← freshIdent c, message, r.storageRef, r.contentType, c.now⟩
  write (·.insertMedia made)
  commitUnit
  return made

def deleteMessageAs (c : Context) (actor message : Ident) : Action Unit := do
  openUnit
  let m ← demandMessage .live message
  if !m.isAuthor actor then
    let channel ← demand (·.channel? .all m.channel) (.channelNotFound m.channel)
    if !(← see (isModerator · channel.space actor)) then fail (.violation .notAuthorOrModerator)
  let _ ← change (·.deleteMessage? message c.now)
  commitUnit

end ChatSpaces.Service
