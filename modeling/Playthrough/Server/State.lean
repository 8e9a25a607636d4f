import Playthrough.Session.Operations
import Playthrough.Storage

/-!
Contract: the play-throughs that a server keeps, beside its storage.

Owns: the registry of the play-throughs that can be asked for, in the order of their last use, and
what the two changes of recency do to it.

Play-throughs are numbered as they are made, and a number is never used again. One that leaves the
registry is only no longer found: whoever still works on it goes on with the same play-through.
-/

namespace Playthrough

/-- The number of a play-through. -/
abbrev SessionId := Nat

/-- What a server holds. -/
structure Server where
  storage : Storage
  /-- How many play-throughs are registered at most. -/
  limit : Nat
  /-- Every play-through that was made, by its number. -/
  sessions : List Session
  /-- The numbers that are registered, the least recently used first. -/
  registry : List SessionId

namespace Server

/-- How many play-throughs are registered at most when nothing else was chosen. -/
def standardLimit : Nat := 64

/-- A server without play-throughs. -/
def initial (storage : Storage) (limit : Nat) : Server :=
  { storage := storage, limit := limit, sessions := [], registry := [] }

/-- The name of a play-through in addresses: its number in thirty-two hexadecimal digits. -/
def idText (id : SessionId) : String :=
  String.ofList (Text.hexadecimal 32 id)

/-- The registered play-through of a name. -/
def find? (server : Server) (name : String) : Option SessionId :=
  server.registry.find? fun id => idText id == name

/-- The play-through of a number. -/
def session (server : Server) (id : SessionId) : Session :=
  server.sessions.getD id (.initial none none .standard)

/-- Changes the play-through of a number. -/
def modifySession (id : SessionId) (change : Session → Session) (server : Server) : Server :=
  { server with sessions := server.sessions.modify id change }

/-- Adds a play-through, which is the one used last. -/
def register (session : Session) (server : Server) : Server :=
  { server with
    sessions := server.sessions ++ [session]
    registry := server.registry ++ [server.sessions.length] }

/-- Takes a play-through out of the registry. -/
def unregister (id : SessionId) (server : Server) : Server :=
  { server with registry := server.registry.filter fun other => other != id }

/-- Makes a registered play-through the one used last. -/
def touch (id : SessionId) (server : Server) : Server :=
  { server with registry := (server.registry.filter fun other => other != id) ++ [id] }

/-- Whether one more play-through needs room. -/
def isFull (server : Server) : Bool :=
  server.limit ≤ server.registry.length

/-- Puts other contents into the storage. -/
def setStorage (storage : Storage) (server : Server) : Server :=
  { server with storage := storage }

@[simp] theorem registry_modifySession (id : SessionId) (change : Session → Session)
    (server : Server) : (server.modifySession id change).registry = server.registry := rfl

@[simp] theorem registry_register (session : Session) (server : Server) :
    (server.register session).registry = server.registry ++ [server.sessions.length] := rfl

@[simp] theorem storage_modifySession (id : SessionId) (change : Session → Session)
    (server : Server) : (server.modifySession id change).storage = server.storage := rfl

@[simp] theorem storage_register (session : Session) (server : Server) :
    (server.register session).storage = server.storage := rfl

@[simp] theorem sessions_unregister (id : SessionId) (server : Server) :
    (server.unregister id).sessions = server.sessions := rfl

@[simp] theorem sessions_touch (id : SessionId) (server : Server) :
    (server.touch id).sessions = server.sessions := rfl

/-- A play-through that was taken out is not registered. -/
theorem not_mem_registry_unregister (id : SessionId) (server : Server) :
    id ∉ (server.unregister id).registry := by
  simp [unregister]

/-- Using a play-through again leaves the same ones registered. -/
theorem mem_registry_touch {id other : SessionId} {server : Server}
    (inside : id ∈ server.registry) :
    other ∈ (server.touch id).registry ↔ other ∈ server.registry := by
  by_cases same : other = id <;> simp [touch, same, inside]

end Server

end Playthrough
