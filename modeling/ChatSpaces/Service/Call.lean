import ChatSpaces.Answer
import ChatSpaces.Service.Membership
import ChatSpaces.Service.Messages
import ChatSpaces.Service.Moderation
import ChatSpaces.Service.Places
import ChatSpaces.Service.Queries
import ChatSpaces.Service.Users

/-!
# Calls

Everything that a client can ask of the services, as data, with the action that answers it.
-/

namespace ChatSpaces.Service

open Time (Instant)

inductive Call where
  | createUser (r : CreateUser)
  | getUser (user : Ident)
  | createSpace (owner : Ident) (r : CreateSpace)
  | createChannel (space : Ident) (r : CreateChannel)
  | renameSpace (actor space : Ident) (r : RenameSpace)
  | renameChannel (actor channel : Ident) (r : RenameChannel)
  | deleteContent (kind : ContentKind) (id : Ident)
  | postMessage (channel author : Ident) (r : PostMessage)
  | editMessage (actor message : Ident) (r : EditMessage)
  | attachMedia (message : Ident) (r : AttachMedia)
  | deleteMessageAs (actor message : Ident)
  | canPost (channel user : Ident)
  | addSpaceMember (space user : Ident) (role : Role)
  | addChannelMember (channel user : Ident)
  | removeMember (scope : Scope) (user : Ident)
  | setSpaceRole (space user : Ident) (role : Role)
  | spaceMembers (space : Ident)
  | channelMembers (channel : Ident)
  | restrain (scope : Scope) (user issuedBy : Ident) (r : Restrain)
  | revokeRestraint (scope : Scope) (user : Ident)
  | activeRestraint (scope : Scope) (user : Ident) (time : Instant)
  | isRestrained (scope : Scope) (user : Ident) (time : Instant)
  | restraintsInScope (scope : Scope) (time : Instant)
  | purgeExpired
  | channelInSpace (v : Visibility) (channel : Ident)
  | channelsInSpace (space : Ident)
  | spaceOverview (space : Ident)
  | message (v : Visibility) (id : Ident)
  | messagesInChannel (channel : Ident) (page : MessagePage)
  | mediaOfMessage (v : Visibility) (id : Ident)
deriving DecidableEq, Repr

namespace Call

def perform (c : Context) : Call → Action Answer
  | createUser r => Answer.one .user <$> Service.createUser c r
  | getUser user => Answer.one .user <$> Service.getUser user
  | createSpace owner r => Answer.one .space <$> Service.createSpace c owner r
  | createChannel space r => Answer.one .channel <$> Service.createChannel c space r
  | renameSpace actor space r => Answer.one .space <$> Service.renameSpace c actor space r
  | renameChannel actor channel r => Answer.one .channel <$> Service.renameChannel c actor channel r
  | deleteContent kind id => (fun _ => .done) <$> Service.deleteContent c kind id
  | postMessage channel author r => Answer.one .message <$> Service.postMessage c channel author r
  | editMessage actor id r => Answer.one .message <$> Service.editMessage c actor id r
  | attachMedia id r => Answer.one .media <$> Service.attachMedia c id r
  | deleteMessageAs actor id => (fun _ => .done) <$> Service.deleteMessageAs c actor id
  | canPost channel user => .flag <$> Service.canPost c channel user
  | addSpaceMember space user role => Answer.one .spaceMember <$> Service.addSpaceMember c space user role
  | addChannelMember channel user => Answer.one .channelMember <$> Service.addChannelMember c channel user
  | removeMember scope user => .flag <$> Service.removeMember scope user
  | setSpaceRole space user role => Answer.one .spaceMember <$> Service.setSpaceRole space user role
  | spaceMembers space => Answer.many .spaceMember <$> Service.spaceMembers space
  | channelMembers channel => Answer.many .channelMember <$> Service.channelMembers channel
  | restrain scope user issuedBy r => Answer.one .restraint <$> Service.restrain c scope user issuedBy r
  | revokeRestraint scope user => .flag <$> Service.revokeRestraint scope user
  | activeRestraint scope user time =>
    Answer.optional .restraint <$> Service.activeRestraint scope user time
  | isRestrained scope user time => .flag <$> Service.isRestrained scope user time
  | restraintsInScope scope time => Answer.many .restraint <$> Service.restraintsInScope scope time
  | purgeExpired => .count <$> Service.purgeExpired c
  | channelInSpace v channel => Answer.one .channelInSpace <$> Service.channelInSpace v channel
  | channelsInSpace space => Answer.many .channel <$> Service.channelsInSpace space
  | spaceOverview space => Answer.one .spaceOverview <$> Service.spaceOverview space
  | message v id => Answer.one .message <$> Service.message v id
  | messagesInChannel channel page => Answer.many .message <$> Service.messagesInChannel channel page
  | mediaOfMessage v id => Answer.many .media <$> Service.mediaOfMessage v id

end Call

end ChatSpaces.Service
