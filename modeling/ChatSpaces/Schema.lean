/-!
# The SQL schema

The tables of the relational store, with the SQL that makes them and the SQL that drops them. Both can be
run again without harm: what is there already is left alone, what is missing is passed over.
-/

namespace ChatSpaces.Schema

structure Column where
  name : String
  /-- Type and constraints, one line each. -/
  spec : List String

structure TableShape where
  name : String
  columns : List Column
  /-- The columns of a key that is more than one column. -/
  key : List String
  remark : Option String

inductive Statement where
  | table (shape : TableShape)
  | index (name : String) (target : List String)

def id : Column := ⟨"id", ["BIGINT PRIMARY KEY"]⟩

def flag (name : String) : Column := ⟨name, ["BOOLEAN NOT NULL DEFAULT FALSE"]⟩

def time (name : String) : Column := ⟨name, ["TIMESTAMPTZ NOT NULL DEFAULT NOW()"]⟩

def text (name : String) : Column := ⟨name, ["TEXT NOT NULL"]⟩

def words (name : String) (length : Nat) : Column := ⟨name, [s!"VARCHAR({length}) NOT NULL"]⟩

def number (name : String) : Column := ⟨name, ["BIGINT NOT NULL"]⟩

def reference (name table : String) : Column := ⟨name, [s!"BIGINT NOT NULL REFERENCES {table} (id)"]⟩

def users : TableShape where
  name := "users"
  columns := [id, ⟨"username", ["VARCHAR(100) NOT NULL UNIQUE"]⟩, words "display_name" 100,
    flag "deactivated", time "created_at"]
  key := []
  remark := none

def spaces : TableShape where
  name := "spaces"
  columns := [id, words "name" 100, ⟨"description", ["TEXT NOT NULL DEFAULT ''"]⟩,
    reference "owner_id" "users", flag "deleted", time "created_at", time "updated_at"]
  key := []
  remark := none

def channels : TableShape where
  name := "channels"
  columns := [id, reference "space_id" "spaces", words "name" 100, flag "deleted", time "created_at",
    time "updated_at"]
  key := []
  remark := none

def spaceMembers : TableShape where
  name := "space_members"
  columns := [reference "space_id" "spaces", reference "user_id" "users",
    ⟨"role", ["VARCHAR(16) NOT NULL DEFAULT 'member'", "CHECK (role IN ('member', 'admin', 'owner'))"]⟩,
    time "joined_at"]
  key := ["space_id", "user_id"]
  remark := none

def channelMembers : TableShape where
  name := "channel_members"
  columns := [reference "channel_id" "channels", reference "user_id" "users", time "joined_at"]
  key := ["channel_id", "user_id"]
  remark := none

def messages : TableShape where
  name := "messages"
  columns := [id, reference "channel_id" "channels", reference "author_id" "users", text "body",
    time "created_at", time "updated_at", flag "deleted"]
  key := []
  remark := none

def media : TableShape where
  name := "media"
  columns := [id, reference "message_id" "messages", text "storage_ref", words "content_type" 255,
    time "created_at"]
  key := []
  remark := none

def restraints : TableShape where
  name := "restrained_members"
  columns := [⟨"scope_kind", ["VARCHAR(16) NOT NULL CHECK (scope_kind IN ('space', 'channel'))"]⟩,
    number "scope_id", reference "user_id" "users",
    ⟨"kind", ["VARCHAR(16) NOT NULL CHECK (kind IN ('mute', 'ban', 'timeout'))"]⟩,
    ⟨"expires_at", ["TIMESTAMPTZ"]⟩, number "issued_by", time "issued_at", ⟨"reason", ["TEXT"]⟩]
  key := ["scope_kind", "scope_id", "user_id"]
  remark := some "Scope is polymorphic (space or channel), so there is no foreign key on it"

def statements : List Statement :=
  [.table users, .table spaces, .table channels,
   .index "idx_channels_space" [" ON channels (space_id)"],
   .table spaceMembers, .table channelMembers,
   .index "idx_channel_members_user" [" ON channel_members (user_id)"],
   .table messages,
   .index "idx_messages_channel" [" ON messages (channel_id, id DESC)"],
   .table media,
   .index "idx_media_message" [" ON media (message_id)"],
   .table restraints,
   .index "idx_restrained_members_expiry"
     ["", "    ON restrained_members (expires_at)", "    WHERE expires_at IS NOT NULL"]]

def dropOrder : List String :=
  [media, channelMembers, spaceMembers, channels, spaces, users, messages, restraints].map (·.name)

def blanks (n : Nat) : String := String.ofList (List.replicate n ' ')

def padTo (width : Nat) (s : String) : String := s ++ blanks (width - s.length)

def nameWidth (columns : List Column) : Nat := (columns.map (·.name.length)).foldl max 0

def columnText (width : Nat) (c : Column) : String :=
  "    " ++ padTo (width + 1) c.name ++ ("\n" ++ blanks (width + 5)).intercalate c.spec

def keyText (key : List String) : List String :=
  if key.isEmpty then [] else ["    PRIMARY KEY (" ++ ", ".intercalate key ++ ")"]

def remarkText (remark : String) : String := "-- " ++ remark ++ "\n"

def tableText (t : TableShape) : String :=
  (t.remark.map remarkText).getD ""
    ++ "CREATE TABLE IF NOT EXISTS " ++ t.name ++ " (\n"
    ++ ",\n".intercalate (t.columns.map (columnText (nameWidth t.columns)) ++ keyText t.key)
    ++ "\n);\n"

def statementText : Statement → String
  | .table t => tableText t
  | .index name target => "CREATE INDEX IF NOT EXISTS " ++ name ++ "\n".intercalate target ++ ";\n"

def provisionText : String :=
  "\n".intercalate (remarkText "Idempotent schema for the spaces store" :: statements.map statementText)

def teardownText : String :=
  remarkText "Drops every table; safe on empty or partially provisioned databases" ++ "\n"
    ++ String.join (dropOrder.map fun name => "DROP TABLE IF EXISTS " ++ name ++ " CASCADE;\n")

end ChatSpaces.Schema
