import PyConduit.Dict
import PyConduit.Protocol

/-!
# Who is at a tab

Before `handle_ws` attaches a tab it checks the origin of the handshake, reads the
username from the request and resolves it to an XMPP identity. Nothing of it
depends on the accounts there are. Texts are lowered and quoted by the language,
and `lower` and `repr` stand for it.
-/

namespace PyConduit.Auth

open Protocol

set_option autoImplicit false

structure Identity where
  username : String
  jid : String
  password : String
  deriving DecidableEq

/-- The maps username to JID and JID to password. -/
structure AuthMapper where
  users : Dict String String
  credentials : Dict String String

inductive AuthMode
  | proxy
  | dev
  deriving DecidableEq

structure AuthConfig where
  mode : AuthMode := .proxy
  header : String := "X-Remote-User"
  devDefaultUser : String := "alice"

/-- What `handle_ws` reads of the handshake. -/
structure Request where
  origin : Option String
  headers : Dict String String
  queryUser : Option String

structure Env where
  mapper : AuthMapper
  config : AuthConfig
  allowedOrigins : List String
  lower : String → String
  repr : String → String

/-- An AuthError is its text. -/
def resolve (env : Env) (username : String) : Except String Identity :=
  if username = "" then .error "empty username"
  else
    match env.mapper.users.lookup username with
    | none => .error s!"unknown user: {env.repr username}"
    | some jid =>
        match env.mapper.credentials.lookup jid with
        | none => .error s!"no credentials for jid: {env.repr jid}"
        | some password => .ok ⟨username, jid, password⟩

/-- The headers by their lowered names, the last one of a name. -/
def lowered (env : Env) (headers : Dict String String) : Dict String String :=
  headers.entries.foldl (fun dict entry => dict.setItem (env.lower entry.1) entry.2) .empty

def extractUsername (env : Env) (request : Request) : Except String String :=
  match env.config.mode with
  | .dev =>
      match request.queryUser with
      | some user => if user = "" then .ok env.config.devDefaultUser else .ok user
      | none => .ok env.config.devDefaultUser
  | .proxy =>
      match (lowered env request.headers).lookup (env.lower env.config.header) with
      | some value =>
          if value = "" then .error s!"missing auth header: {env.config.header}" else .ok value
      | none => .error s!"missing auth header: {env.config.header}"

def originAllowed (origin : Option String) (allowed : List String) : Bool :=
  if allowed = [] then true
  else
    match origin with
    | none => false
    | some origin => if origin = "" then false else origin ∈ allowed

/-- How `handle_ws` comes to its `manager.attach`, or does not. -/
inductive Login
  | rejected
  | denied (frame : Frame)
  | identified (identity : Identity)

def login (env : Env) (request : Request) : Login :=
  if originAllowed request.origin env.allowedOrigins then
    match extractUsername env request >>= resolve env with
    | .error text => .denied (.error "auth" s!"Not authorized: {text}" none)
    | .ok identity => .identified identity
  else .rejected

section Resolution

variable {env : Env} {request : Request} {username : String} {identity : Identity}

theorem resolve_ok_iff :
    resolve env username = .ok identity ↔
      username ≠ "" ∧ identity.username = username ∧
        env.mapper.users.lookup username = some identity.jid ∧
          env.mapper.credentials.lookup identity.jid = some identity.password := by
  obtain ⟨name, jid, password⟩ := identity
  unfold resolve
  split_ifs with blank
  · simp [blank]
  · cases mapped : env.mapper.users.lookup username with
    | none => simp
    | some found =>
        cases stored : env.mapper.credentials.lookup found with
        | none =>
            simp only [stored, reduceCtorEq, false_iff]
            rintro ⟨_, _, same, known⟩
            cases same
            cases stored.symm.trans known
        | some secret =>
            simp only [stored, Except.ok.injEq, Identity.mk.injEq, Option.some.injEq]
            constructor
            · rintro ⟨rfl, rfl, rfl⟩
              exact ⟨blank, rfl, rfl, stored⟩
            · rintro ⟨_, rfl, rfl, known⟩
              exact ⟨rfl, rfl, Option.some.inj (stored.symm.trans known)⟩

theorem login_identified (logged : login env request = .identified identity) :
    extractUsername env request = .ok identity.username ∧
      env.mapper.users.lookup identity.username = some identity.jid := by
  unfold login at logged
  split_ifs at logged
  cases extracted : extractUsername env request with
  | error text =>
      rw [extracted] at logged
      cases logged
  | ok username =>
      rw [extracted] at logged
      cases resolved : resolve env username with
      | error text =>
          simp only [bind, Except.bind, resolved] at logged
          cases logged
      | ok found =>
          simp only [bind, Except.bind, resolved] at logged
          cases logged
          obtain ⟨_, named, mapped, _⟩ := resolve_ok_iff.mp resolved
          rw [named]
          exact ⟨rfl, mapped⟩

end Resolution

end PyConduit.Auth
