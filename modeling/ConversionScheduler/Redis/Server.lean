import ConversionScheduler.Store.Basic
import ConversionScheduler.Table
/-!
# A key-value server

The part of a Redis server that the stores use: strings, sets and hashes under keys, some of which
run out. The server answers one command after the other; the commands of a transaction are
executed with nothing in between.

## Main definitions

* `Redis.Command`, `Redis.Reply` — what is asked and answered.
* `Redis.Server`, `Redis.Server.execute` — the keys, and what a command does.
* `Redis.Server.executeAll` — what a transaction does.
-/

namespace ConversionScheduler.Redis

/-- A command. -/
inductive Command
  | ping
  /-- `expiry` is in seconds; with `onlyPresent` nothing is written unless the key is there. -/
  | set (key value : String) (expiry : Option Nat) (onlyPresent : Bool)
  | get (key : String)
  | del (keys : List String)
  | mget (keys : List String)
  | sadd (key : String) (members : List String)
  | srem (key : String) (members : List String)
  | smembers (key : String)
  | hset (key : String) (fields : List (String × String))
  | hget (key field : String)
  | hdel (key : String) (fields : List String)
deriving DecidableEq

/-- A reply. -/
inductive Reply
  | status (text : String)
  | bulk (text : String)
  | integer (n : Int)
  | nil
  | list (items : List Reply)
  | error (text : String)
deriving Inhabited

/-- What is kept under a key. -/
inductive Datum
  | text (s : String)
  | set (members : List String)
  | hash (fields : List (String × String))
deriving DecidableEq

/-- A datum, and the time at which it runs out. -/
structure Entry where
  datum : Datum
  deadline : Option Duration
deriving DecidableEq

/-- The keys of a server, and its clock. -/
structure Server where
  clock : Duration
  entries : Table String Entry

namespace Reply

/-- A text. -/
def text? : Reply → Option String
  | .status t => some t
  | .bulk t => some t
  | .integer n => some (String.ofList (Decimal.integer n))
  | _ => none

/-- A text, or nothing. -/
def optionalText? : Reply → Option (Option String)
  | .nil => some none
  | r => r.text?.map some

/-- The number of some digits, which may have a sign. -/
def digits? : List Char → Option Int
  | '-' :: ds =>
    if ds.isEmpty || !ds.all Decimal.isDigit then none else some (-(Decimal.ofDigits ds : Int))
  | ds => if ds.isEmpty || !ds.all Decimal.isDigit then none else some (Decimal.ofDigits ds : Int)

/-- A number, or digits. -/
def integer? : Reply → Option Int
  | .integer n => some n
  | .status t => digits? t.toList
  | .bulk t => digits? t.toList
  | _ => none

/-- A list. -/
def items? : Reply → Option (List Reply)
  | .list rs => some rs
  | .nil => some []
  | _ => none

/-- A list of texts. -/
def texts? (r : Reply) : Option (List String) := r.items?.bind fun rs => rs.mapM text?

/-- A list of texts and gaps. -/
def optionalTexts? (r : Reply) : Option (List (Option String)) :=
  r.items?.bind fun rs => rs.mapM optionalText?

end Reply

namespace Command

/-- The words of a command as they are sent. -/
def words : Command → List String
  | .ping => ["PING"]
  | .set key value expiry onlyPresent =>
    ["SET", key, value] ++ (match expiry with
      | some n => ["EX", Decimal.text n]
      | none => []) ++ (if onlyPresent then ["XX"] else [])
  | .get key => ["GET", key]
  | .del keys => "DEL" :: keys
  | .mget keys => "MGET" :: keys
  | .sadd key members => "SADD" :: key :: members
  | .srem key members => "SREM" :: key :: members
  | .smembers key => ["SMEMBERS", key]
  | .hset key fields => "HSET" :: key :: fields.flatMap fun f => [f.1, f.2]
  | .hget key field => ["HGET", key, field]
  | .hdel key fields => "HDEL" :: key :: fields

/-- The options behind the value of a `SET`. -/
def setOptions? : List String → Option (Option Nat × Bool)
  | [] => some (none, false)
  | w :: rest =>
    if w.toUpper = "XX" then (setOptions? rest).map fun o => (o.1, true)
    else
      match rest with
      | n :: rest' =>
        if w.toUpper = "EX" ∧ n.toList.all Decimal.isDigit ∧ n ≠ "" then
          (setOptions? rest').map fun o => (some (Decimal.ofDigits n.toList), o.2)
        else none
      | [] => none

/-- Fields and values in turn. -/
def pairs? : List String → Option (List (String × String))
  | [] => some []
  | f :: v :: rest => (pairs? rest).map ((f, v) :: ·)
  | [_] => none

/-- The command of some words. -/
def ofWords? : List String → Option Command
  | [] => none
  | w :: args =>
    match w.toUpper, args with
    | "PING", [] => some .ping
    | "SET", key :: value :: options =>
      (setOptions? options).map fun o => .set key value o.1 o.2
    | "GET", [key] => some (.get key)
    | "DEL", k :: keys => some (.del (k :: keys))
    | "MGET", k :: keys => some (.mget (k :: keys))
    | "SADD", key :: m :: members => some (.sadd key (m :: members))
    | "SREM", key :: m :: members => some (.srem key (m :: members))
    | "SMEMBERS", [key] => some (.smembers key)
    | "HSET", key :: f :: fields => (pairs? (f :: fields)).map (.hset key)
    | "HGET", [key, field] => some (.hget key field)
    | "HDEL", key :: f :: fields => some (.hdel key (f :: fields))
    | _, _ => none

end Command

namespace Server

/-- A server without keys. -/
def empty : Server := ⟨⟨0⟩, .empty⟩

/-- A server that holds nothing. -/
instance : Inhabited Server := ⟨empty⟩

/-- Whether an entry is still there. -/
def isLive (s : Server) (e : Entry) : Bool :=
  match e.deadline with
  | none => true
  | some d => s.clock.nanos < d.nanos

/-- The entry of a key, if it is still there. -/
def entry? (s : Server) (key : String) : Option Entry := (s.entries.get? key).filter s.isLive

/-- What is kept under a key. -/
def datum? (s : Server) (key : String) : Option Datum := (s.entry? key).map (·.datum)

/-- Keeps an entry under a key. -/
def put (s : Server) (key : String) (e : Entry) : Server :=
  { s with entries := s.entries.insert key e }

/-- Forgets a key. -/
def forget (s : Server) (key : String) : Server := { s with entries := s.entries.erase key }

/-- Changes the datum of a key, whose time stays as it is. A set or hash without members is
forgotten. -/
def alter (s : Server) (key : String) (d : Datum) : Server :=
  if d = .set [] ∨ d = .hash [] then s.forget key
  else s.put key ⟨d, (s.entry? key).bind (·.deadline)⟩

/-- Lets time pass. -/
def advance (s : Server) (d : Duration) : Server := { s with clock := ⟨s.clock.nanos + d.nanos⟩ }

/-- The reply to a command that is meant for another type of datum. -/
def wrongType : Reply :=
  .error "WRONGTYPE Operation against a key holding the wrong kind of value"

/-- The members of a set; a key that is not there is an empty one. -/
def members? (s : Server) (key : String) : Option (List String) :=
  match s.datum? key with
  | none => some []
  | some (.set ms) => some ms
  | some _ => none

/-- The fields of a hash; a key that is not there is an empty one. -/
def fields? (s : Server) (key : String) : Option (List (String × String)) :=
  match s.datum? key with
  | none => some []
  | some (.hash fs) => some fs
  | some _ => none

/-- From this number of seconds on no key can be made to run out. -/
def maxExpiry : Nat := 9223372036854775

/-- Writes a string. -/
def set (s : Server) (key value : String) (expiry : Option Nat) (onlyPresent : Bool) :
    Reply × Server :=
  if expiry.any fun n => n = 0 || maxExpiry ≤ n then
    (.error "ERR invalid expire time in 'set' command", s)
  else if onlyPresent && (s.entry? key).isNone then (.nil, s)
  else
    (.status "OK", s.put key ⟨.text value, expiry.map fun n =>
      ⟨s.clock.nanos + (Duration.ofSeconds n).nanos⟩⟩)

/-- A number in a reply. -/
def number (n : Nat) : Reply := .integer n

/-- A text in a reply, if there is one. -/
def bulk? : Option String → Reply
  | some t => .bulk t
  | none => .nil

/-- Gives a field of a hash a value. -/
def setField (fs : List (String × String)) (f : String × String) : List (String × String) :=
  if fs.any (·.1 = f.1) then fs.map fun g => if g.1 = f.1 then f else g else fs ++ [f]

/-- What a command does. -/
def execute (s : Server) : Command → Reply × Server
  | .ping => (.status "PONG", s)
  | .set key value expiry onlyPresent => s.set key value expiry onlyPresent
  | .get key =>
    match s.datum? key with
    | none => (.nil, s)
    | some (.text t) => (.bulk t, s)
    | some _ => (wrongType, s)
  | .del keys =>
    let present := keys.eraseDups.filter fun k => (s.entry? k).isSome
    (number present.length, present.foldl forget s)
  | .mget keys =>
    (.list (keys.map fun k =>
      match s.datum? k with
      | some (.text t) => .bulk t
      | _ => .nil), s)
  | .sadd key members =>
    match s.members? key with
    | none => (wrongType, s)
    | some ms =>
      let added := members.eraseDups.filter fun m => !ms.contains m
      (number added.length, if added.isEmpty then s else s.alter key (.set (sortIds (ms ++ added))))
  | .srem key members =>
    match s.members? key with
    | none => (wrongType, s)
    | some ms =>
      let kept := ms.filter fun m => !members.contains m
      (number (ms.length - kept.length),
        if kept.length = ms.length then s else s.alter key (.set kept))
  | .smembers key =>
    match s.members? key with
    | none => (wrongType, s)
    | some ms => (.list (ms.map .bulk), s)
  | .hset key fields =>
    match s.fields? key with
    | none => (wrongType, s)
    | some fs =>
      let fresh := (fields.map (·.1)).eraseDups.filter fun f => !fs.any (·.1 = f)
      (number fresh.length, s.alter key (.hash (fields.foldl setField fs)))
  | .hget key field =>
    match s.fields? key with
    | none => (wrongType, s)
    | some fs => (bulk? (fs.lookup field), s)
  | .hdel key fields =>
    match s.fields? key with
    | none => (wrongType, s)
    | some fs =>
      let kept := fs.filter fun f => !fields.contains f.1
      (number (fs.length - kept.length),
        if kept.length = fs.length then s else s.alter key (.hash kept))

/-- What the commands of a transaction do. -/
def executeAll (s : Server) : List Command → List Reply × Server
  | [] => ([], s)
  | c :: rest =>
    let (r, s') := s.execute c
    let (rs, s'') := s'.executeAll rest
    (r :: rs, s'')

end Server

end ConversionScheduler.Redis
