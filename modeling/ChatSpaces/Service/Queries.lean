import ChatSpaces.Service.Action

/-!
# Queries

Composed reads. Deleted rows are hidden in every table that a read touches, unless the read is asked to
show them; a channel joined to its space is the exception, for it shows the space as it is.
-/

namespace ChatSpaces.Service

open Service.Action

def channelInSpace (v : Visibility) (channel : Ident) : Action ChannelInSpace := do
  openUnit
  demand (·.channelInSpace? v channel) (.channelNotFound channel)

def channelsInSpace (space : Ident) : Action (List Channel) := do
  openUnit
  let _ ← demandSpace space
  see (·.channelsIn .live space)

def spaceOverview (space : Ident) : Action SpaceOverview := do
  openUnit
  let found ← demandSpace space
  return ⟨found, ← see (·.spaceMembersOf space), ← see (·.channelsIn .live space)⟩

def message (v : Visibility) (id : Ident) : Action Message := do
  openUnit
  demandMessage v id

/-- Latest first. -/
def messagesInChannel (channel : Ident) (page : MessagePage) : Action (List Message) := do
  check page.problems
  openUnit
  let joined ← demandOpenChannel channel
  see (·.messagesIn .live joined.channel.id page.before page.limit)

def mediaOfMessage (v : Visibility) (id : Ident) : Action (List Media) := do
  openUnit
  let _ ← demandMessage v id
  see (·.mediaOf v id)

end ChatSpaces.Service
