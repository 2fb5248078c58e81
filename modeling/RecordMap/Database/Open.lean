import RecordMap.Database.Transaction

/-!
# Opening and closing connections

A `Builder` collects how a connection is to be opened: the database path, the engine's open
flags, an encryption key, how timestamps are stored, the busy timeout and the creation flags.
Opening checks, in order:

* a path was given;
* the flags ask for exactly one of read-only, read-write, or read-write with creation;
* the path leads to a database: `:memory:` and the empty path are private databases in memory;
  with URIs allowed, `file:` names a file, or an in-memory database (`:memory:` or
  `mode=memory`), shared by name when the cache is shared; a file opens when it exists, or is
  created when creation is allowed and its directory exists;
* a key is refused: this engine has no cipher, so a keyed connection would silently store plain
  text; a raw key must first be 32 bytes long.

Closing forgets the connection's mappings, created tables and transaction depth, and drops its
open transaction. An in-memory database shared by name lives while some connection uses it.
-/

namespace RecordMap

open RecordMap.Sql (Engine Sharing)
open RecordMap.Text

/-- The engine's open flags, as a bit set. -/
structure OpenFlags where
  bits : Nat
  deriving Repr, DecidableEq, Inhabited

namespace OpenFlags

/-- Open for reading only. -/
def readOnly : Nat := 0x1
/-- Open for reading and writing. -/
def readWrite : Nat := 0x2
/-- Create the database when missing. -/
def create : Nat := 0x4
/-- Read `file:` names as URIs. -/
def uri : Nat := 0x40
/-- Keep the database in memory. -/
def memory : Nat := 0x80
/-- No locking of the connection object. -/
def noMutex : Nat := 0x8000
/-- Locking of the connection object. -/
def fullMutex : Nat := 0x10000
/-- Share the cache with other connections. -/
def sharedCache : Nat := 0x20000
/-- Keep a cache of its own. -/
def privateCache : Nat := 0x40000

/-- The flags of a plain open: read-write, create, URIs, no mutex. -/
def standard : OpenFlags := ⟨readWrite ||| create ||| uri ||| noMutex⟩

def has (f : OpenFlags) (flag : Nat) : Bool := f.bits &&& flag != 0

/-- Whether the access bits ask for one sensible mode: read-only, read-write, or read-write
with creation. -/
def validMode (f : OpenFlags) : Bool := [1, 2, 6].contains (f.bits % 8)

/-- The flag names, in their order. -/
def names : List (String × Nat) :=
  [("SQLITE_OPEN_READ_ONLY", readOnly), ("SQLITE_OPEN_READ_WRITE", readWrite),
   ("SQLITE_OPEN_CREATE", create), ("SQLITE_OPEN_URI", uri), ("SQLITE_OPEN_MEMORY", memory),
   ("SQLITE_OPEN_NO_MUTEX", noMutex), ("SQLITE_OPEN_FULL_MUTEX", fullMutex),
   ("SQLITE_OPEN_SHARED_CACHE", sharedCache), ("SQLITE_OPEN_PRIVATE_CACHE", privateCache),
   ("SQLITE_OPEN_NOFOLLOW", 0x1000000), ("SQLITE_OPEN_EXRESCODE", 0x2000000)]

/-- Structural text: the names of the set flags joined by `|`, and any other bits in hex. -/
def debugText (f : OpenFlags) : String :=
  let set := names.filter fun (_, b) => f.has b
  let known := set.foldl (fun acc (_, b) => acc ||| b) 0
  let rest := f.bits - (f.bits &&& known)
  let parts := set.map (·.1) ++ (if rest != 0 then ["0x" ++ hexLower rest] else [])
  "OpenFlags(" ++ (if parts.isEmpty then "0x0" else " | ".intercalate parts) ++ ")"

end OpenFlags

/-- An encryption key: a passphrase or raw key bytes. -/
inductive Key where
  | passphrase (text : String)
  | raw (bytes : List UInt8)
  deriving Repr, Inhabited

/-- The length a raw key must have. -/
def rawKeyLength : Nat := 32

/-- Structural text of a key, which never shows the key. -/
def Key.debugText : Key → String
  | .passphrase _ => "Passphrase(..)"
  | .raw _ => "Raw(..)"

/-- The statement that applies a key. -/
def Key.pragma : Key → Outcome String
  | .passphrase p =>
    .ok ("pragma key = '" ++ String.join (p.toList.map fun c => if c == '\'' then "''" else c.toString) ++ "'")
  | .raw bs =>
    if bs.length != rawKeyLength then
      .error (.connection "" ("raw key must be " ++ toString rawKeyLength ++ " bytes, got " ++
        toString bs.length))
    else .ok ("pragma key = \"x'" ++ Value.hexText bs ++ "'\"")

/-- How a time span of milliseconds is written structurally: seconds with a fraction, else
milliseconds, else `0ns`. -/
def millisText (ms : Nat) : String :=
  if ms ≥ 1000 then
    let frac := (Nat.toDigits 10 (1000 + ms % 1000)).drop 1
    let frac := (frac.reverse.dropWhile (· == '0')).reverse
    toString (ms / 1000) ++ (if frac.isEmpty then "" else "." ++ String.ofList frac) ++ "s"
  else if ms > 0 then toString ms ++ "ms"
  else "0ns"

/-- How a connection is to be opened. -/
structure Builder where
  path : Option String := none
  flags : Option OpenFlags := none
  key : Option Key := none
  ticks : Option Bool := none
  busyTimeout : Option Nat := none
  createFlags : Option CreateFlags := none
  deriving Inhabited

/-- Structural text of a builder. -/
def Builder.debugText (b : Builder) : String :=
  "ConnectionBuilder \x7b path: " ++ optionText debugQuote b.path ++ ", flags: " ++
    optionText OpenFlags.debugText b.flags ++ ", key: " ++ optionText Key.debugText b.key ++
    ", store_timestamps_as_ticks: " ++
    optionText (fun t => if t then "true" else "false") b.ticks ++ ", busy_timeout: " ++
    optionText millisText b.busyTimeout ++ ", create_flags: " ++
    optionText (fun f => "CreateFlags(" ++ toString f.bits ++ ")") b.createFlags ++ " \x7d"

/-- Where a path leads. -/
inductive Place where
  /-- A database in memory that no other connection reaches. -/
  | privateMemory
  /-- A database in memory that connections share by name. -/
  | sharedMemory (name : String)
  /-- A file, opened read-only or not, and created when missing if allowed. -/
  | file (path : String) (readOnly create : Bool)
  deriving Repr, Inhabited

/-- The query parameters of a URI. -/
def uriParams (query : String) : List (String × String) :=
  (query.splitOn "&").filterMap fun kv =>
    match kv.splitOn "=" with
    | [k, v] => some (k, v)
    | _ => none

/-- Where a path leads under the open flags, or the engine's complaint. -/
def resolvePlace (path : String) (flags : OpenFlags) : Except String Place :=
  let readOnly := flags.has OpenFlags.readOnly
  let create := flags.has OpenFlags.create
  let sharedCache := flags.has OpenFlags.sharedCache
  if path == ":memory:" || path.isEmpty then .ok .privateMemory
  else if flags.has OpenFlags.uri && path.startsWith "file:" then
    let rest := String.ofList (path.toList.drop 5)
    let (name, query) := match rest.splitOn "?" with
      | n :: q :: _ => (n, q)
      | _ => (rest, "")
    let params := uriParams query
    let lookup (k : String) : Option String := (params.find? (·.1 == k)).map (·.2)
    let shared := sharedCache || lookup "cache" == some "shared"
    match lookup "mode" with
    | some "memory" => .ok (if shared then .sharedMemory name else .privateMemory)
    | mode =>
      if name == ":memory:" then .ok (if shared then .sharedMemory name else .privateMemory)
      else match mode with
        | some "ro" => .ok (.file name true false)
        | some "rw" => if readOnly then .error "access mode not allowed: rw" else .ok (.file name false false)
        | some "rwc" =>
          if readOnly || !create then .error "access mode not allowed: rwc" else .ok (.file name false true)
        | some m => .error ("no such access mode: " ++ m)
        | none => .ok (.file name readOnly (create && !readOnly))
  else if flags.has OpenFlags.memory then
    .ok (if sharedCache then .sharedMemory path else .privateMemory)
  else .ok (.file path readOnly (create && !readOnly))

/-- The directory part of a file path. -/
def directoryOf (path : String) : String :=
  match (path.toList.reverse.dropWhile (· != '/')) with
  | [] => ""
  | _ :: rest => String.ofList rest.reverse

/-- Whether a directory exists: the working directory and the temporary directory do. -/
def directoryExists (dir : String) : Bool := ["", ".", "/tmp", "/"].contains dir

/-- The message of an encryption key on an engine without a cipher. -/
def noCipherMessage : String :=
  "encryption is not available: the engine was built without a cipher (enable the " ++
    "\x60sqlcipher\x60 feature)"

/-- How connections to a place meet. -/
def Place.sharing (p : Place) (flags : OpenFlags) : Option Sharing :=
  match p with
  | .privateMemory => none
  | .sharedMemory _ => some .cache
  | .file .. => some (if flags.has OpenFlags.sharedCache then .cache else .files)

namespace Db

/-- The registered database of a name. -/
def registered (name : String) : Db (Option Nat) := do
  pure (((← get).databases.find? (·.1 == name)).map (·.2))

/-- A new empty database, registered under a name when it has one. -/
def newDatabase (name : Option String) : Db Nat := do
  let w ← get
  let (engine, d) := w.engine.addDatabase
  let databases := match name with
    | some n => w.databases ++ [(n, d)]
    | none => w.databases
  set { w with engine, databases }
  pure d

/-- The database a place leads to, created when it may be; none when it cannot be opened. -/
def databaseOf (p : Place) : Db (Option Nat) := do
  match p with
  | .privateMemory => some <$> newDatabase none
  | .sharedMemory name =>
    match ← registered ("memory:" ++ name) with
    | some d => pure (some d)
    | none => some <$> newDatabase (some ("memory:" ++ name))
  | .file path _ create =>
    match ← registered ("file:" ++ path) with
    | some d => pure (some d)
    | none =>
      if create && directoryExists (directoryOf path) then
        some <$> newDatabase (some ("file:" ++ path))
      else pure none

/-- Opens a connection as a builder describes: its number. -/
def openConnection (b : Builder) : Db Nat := do
  let some path := b.path | throw (.connection "" "no database path configured")
  let flags := b.flags.getD OpenFlags.standard
  let failure (m : String) : Error := .connection path m
  if !flags.validMode then throw (failure "Error code 21: Library used incorrectly")
  let place ← match resolvePlace path flags with
    | .ok p => pure p
    | .error m => throw (failure m)
  let some database ← databaseOf place
    | throw (failure ("unable to open database file: " ++ path))
  match b.key with
  | some k =>
    match k.pragma with
    | .error e => throw (failure e.message)
    | .ok _ => throw (failure noCipherMessage)
  | none => pure ()
  let readOnly := match place with
    | .file _ ro _ => ro
    | _ => flags.has OpenFlags.readOnly
  let w ← get
  let engine := match place.sharing flags with
    | some s => { w.engine with sharing := s }
    | none => w.engine
  let (engine, h) := engine.connect database readOnly
  let busyTimeout := b.busyTimeout.getD defaultBusyTimeout
  let engine := engine.setBusyTimeout h busyTimeout
  let k : Connection :=
    { handle := some h, path, ticks := b.ticks.getD true,
      createFlags := b.createFlags.getD CreateFlags.none, busyTimeout }
  set { w with engine, connections := w.connections.push k }
  pure w.connections.size

/-- Sets how long a busy database is waited for; the connection must be open. -/
def setBusyTimeout (c : Nat) (ms : Nat) : Db Unit := do
  let h ← handle c
  modify fun w => { w with engine := w.engine.setBusyTimeout h ms }
  modifyConnection c fun k => { k with busyTimeout := ms }

/-- Forgets a named in-memory database that no open connection uses any more. -/
def releaseDatabase (database : Nat) : Db Unit := do
  let w ← get
  if !w.engine.inUse database then
    set { w with databases := w.databases.filter fun (n, d) => d != database || n.startsWith "file:" }

/-- Closes a connection; closing a closed one does nothing. -/
def close (c : Nat) : Db Unit := do
  let k ← connection c
  match k.handle with
  | none => pure ()
  | some h =>
    modifyConnection c fun k =>
      { k with handle := none, catalog := k.catalog.clear, created := [], depth := 0 }
    let w ← get
    let database := (w.engine.handle h).database
    set { w with engine := w.engine.disconnect h }
    releaseDatabase database

/-- Closes a connection and opens it again as a builder describes, under the same number. -/
def reopen (c : Nat) (b : Builder) : Db Unit := do
  close c
  let n ← openConnection b
  modify fun w =>
    { w with connections := (w.connections.setIfInBounds c (w.connections.getD n default)).pop }

/-- Keeps a connection's database alive with a bare engine connection of its own. -/
def holdDatabase (c : Nat) : Db Unit := do
  let h ← handle c
  let w ← get
  let (engine, _) := w.engine.connect (w.engine.handle h).database false
  set { w with engine }

end Db

end RecordMap
