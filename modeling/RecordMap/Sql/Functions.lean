import RecordMap.Sql.Operators
import RecordMap.Sql.Fault

/-!
# The functions the engine knows

Every function has a name, the numbers of arguments it takes, and a kind: a scalar function of
its arguments, an aggregate over the rows of a group, a window function over the rows of a
window, or one of the few that decide themselves which arguments they evaluate (`coalesce`,
`ifnull`, `iif`, and the planner hints `likely`, `unlikely`, `likelihood`). `min` and `max`
are aggregates with one argument and scalar with more.

`lookupFunction` finds a function by name (up to ASCII case) and argument count: a function that
does not exist is unknown, one that exists with other counts is called with the wrong number of
arguments.
-/

namespace RecordMap.Sql

/-- The date and time functions. -/
inductive DateFn where
  | date
  | time
  | datetime
  | julianday
  | unixepoch
  | strftime
  | timediff
  | currentDate
  | currentTime
  | currentTimestamp
  deriving Repr, DecidableEq, Inhabited

/-- The JSON functions; `binary` variants return the binary form. -/
inductive JsonFn where
  | json
  | array
  | arrayLength
  | errorPosition
  | extract
  | insert
  | object
  | patch
  | quote
  | remove
  | replace
  | set
  | type
  | valid
  /-- `->`: a JSON value out of a JSON text. -/
  | arrow
  /-- `->>`: an SQL value out of a JSON text. -/
  | arrowValue
  | pretty
  deriving Repr, DecidableEq, Inhabited

/-- The scalar functions. -/
inductive ScalarFn where
  | abs
  | changes
  | char
  | concat
  | concatWs
  | printf
  | glob
  | hex
  | instr
  | lastInsertRowid
  | length
  | like
  | lower
  | ltrim
  | rtrim
  | trim
  | max
  | min
  | nullif
  | octetLength
  | quote
  | random
  | randomblob
  | replace
  | round
  | sign
  | soundex
  | sourceId
  | version
  | substr
  | totalChanges
  | typeof
  | unhex
  | unicode
  | upper
  | zeroblob
  | compileOptionGet
  | compileOptionUsed
  | loadExtension
  | date (f : DateFn)
  | json (f : JsonFn) (binary : Bool)
  deriving Repr, DecidableEq, Inhabited

/-- The aggregate functions. -/
inductive AggregateFn where
  | count
  | countAll
  | sum
  | total
  | avg
  | min
  | max
  | groupConcat
  | jsonGroupArray (binary : Bool)
  | jsonGroupObject (binary : Bool)
  deriving Repr, DecidableEq, Inhabited

/-- The functions that exist only over windows. -/
inductive WindowFn where
  | rowNumber
  | rank
  | denseRank
  | percentRank
  | cumeDist
  | ntile
  | lag
  | lead
  | firstValue
  | lastValue
  | nthValue
  deriving Repr, DecidableEq, Inhabited

/-- The functions that decide which of their arguments to evaluate. -/
inductive SpecialFn where
  | coalesce
  | ifnull
  | iif
  | likely
  | unlikely
  | likelihood
  deriving Repr, DecidableEq, Inhabited

/-- What a function name and argument count stand for. -/
inductive FunctionRef where
  | scalar (f : ScalarFn)
  | aggregate (f : AggregateFn)
  | window (f : WindowFn)
  | special (f : SpecialFn)
  deriving Repr, DecidableEq, Inhabited

/-- The argument counts a function takes: at least `min`, at most `max` when bounded. -/
structure Arity where
  min : Nat
  max : Option Nat

/-- Exactly `n` arguments. -/
def Arity.exactly (n : Nat) : Arity := ⟨n, some n⟩

/-- Between `a` and `b` arguments. -/
def Arity.between (a b : Nat) : Arity := ⟨a, some b⟩

/-- At least `n` arguments. -/
def Arity.atLeast (n : Nat) : Arity := ⟨n, none⟩

/-- Whether a count is allowed. -/
def Arity.allows (a : Arity) (n : Nat) : Bool :=
  decide (a.min ≤ n) && (a.max.map fun m => decide (n ≤ m)).getD true

/-- The functions by lower-case name, each with its arities and kinds. A name may appear with
several arities. -/
def functionTable : List (String × Arity × FunctionRef) :=
  [("abs", .exactly 1, .scalar .abs),
   ("changes", .exactly 0, .scalar .changes),
   ("char", .atLeast 0, .scalar .char),
   ("concat", .atLeast 1, .scalar .concat),
   ("concat_ws", .atLeast 2, .scalar .concatWs),
   ("format", .atLeast 0, .scalar .printf),
   ("printf", .atLeast 0, .scalar .printf),
   ("glob", .exactly 2, .scalar .glob),
   ("hex", .exactly 1, .scalar .hex),
   ("instr", .exactly 2, .scalar .instr),
   ("last_insert_rowid", .exactly 0, .scalar .lastInsertRowid),
   ("length", .exactly 1, .scalar .length),
   ("like", .between 2 3, .scalar .like),
   ("lower", .exactly 1, .scalar .lower),
   ("ltrim", .between 1 2, .scalar .ltrim),
   ("rtrim", .between 1 2, .scalar .rtrim),
   ("trim", .between 1 2, .scalar .trim),
   ("max", .exactly 1, .aggregate .max),
   ("max", .atLeast 2, .scalar .max),
   ("min", .exactly 1, .aggregate .min),
   ("min", .atLeast 2, .scalar .min),
   ("nullif", .exactly 2, .scalar .nullif),
   ("octet_length", .exactly 1, .scalar .octetLength),
   ("quote", .exactly 1, .scalar .quote),
   ("random", .exactly 0, .scalar .random),
   ("randomblob", .exactly 1, .scalar .randomblob),
   ("replace", .exactly 3, .scalar .replace),
   ("round", .between 1 2, .scalar .round),
   ("sign", .exactly 1, .scalar .sign),
   ("soundex", .exactly 1, .scalar .soundex),
   ("sqlite_source_id", .exactly 0, .scalar .sourceId),
   ("sqlite_version", .exactly 0, .scalar .version),
   ("sqlite_compileoption_get", .exactly 1, .scalar .compileOptionGet),
   ("sqlite_compileoption_used", .exactly 1, .scalar .compileOptionUsed),
   ("load_extension", .between 1 2, .scalar .loadExtension),
   ("substr", .between 2 3, .scalar .substr),
   ("substring", .between 2 3, .scalar .substr),
   ("total_changes", .exactly 0, .scalar .totalChanges),
   ("typeof", .exactly 1, .scalar .typeof),
   ("unhex", .between 1 2, .scalar .unhex),
   ("unicode", .exactly 1, .scalar .unicode),
   ("upper", .exactly 1, .scalar .upper),
   ("zeroblob", .exactly 1, .scalar .zeroblob),
   ("date", .atLeast 0, .scalar (.date .date)),
   ("time", .atLeast 0, .scalar (.date .time)),
   ("datetime", .atLeast 0, .scalar (.date .datetime)),
   ("julianday", .atLeast 0, .scalar (.date .julianday)),
   ("unixepoch", .atLeast 0, .scalar (.date .unixepoch)),
   ("strftime", .atLeast 0, .scalar (.date .strftime)),
   ("timediff", .exactly 2, .scalar (.date .timediff)),
   ("current_date", .exactly 0, .scalar (.date .currentDate)),
   ("current_time", .exactly 0, .scalar (.date .currentTime)),
   ("current_timestamp", .exactly 0, .scalar (.date .currentTimestamp)),
   ("json", .exactly 1, .scalar (.json .json false)),
   ("jsonb", .exactly 1, .scalar (.json .json true)),
   ("json_array", .atLeast 0, .scalar (.json .array false)),
   ("jsonb_array", .atLeast 0, .scalar (.json .array true)),
   ("json_array_length", .between 1 2, .scalar (.json .arrayLength false)),
   ("json_error_position", .exactly 1, .scalar (.json .errorPosition false)),
   ("json_extract", .atLeast 1, .scalar (.json .extract false)),
   ("jsonb_extract", .atLeast 1, .scalar (.json .extract true)),
   ("json_insert", .atLeast 1, .scalar (.json .insert false)),
   ("jsonb_insert", .atLeast 1, .scalar (.json .insert true)),
   ("json_object", .atLeast 0, .scalar (.json .object false)),
   ("jsonb_object", .atLeast 0, .scalar (.json .object true)),
   ("json_patch", .exactly 2, .scalar (.json .patch false)),
   ("jsonb_patch", .exactly 2, .scalar (.json .patch true)),
   ("json_quote", .exactly 1, .scalar (.json .quote false)),
   ("json_remove", .atLeast 1, .scalar (.json .remove false)),
   ("jsonb_remove", .atLeast 1, .scalar (.json .remove true)),
   ("json_replace", .atLeast 1, .scalar (.json .replace false)),
   ("jsonb_replace", .atLeast 1, .scalar (.json .replace true)),
   ("json_set", .atLeast 1, .scalar (.json .set false)),
   ("jsonb_set", .atLeast 1, .scalar (.json .set true)),
   ("json_type", .between 1 2, .scalar (.json .type false)),
   ("json_valid", .between 1 2, .scalar (.json .valid false)),
   ("avg", .exactly 1, .aggregate .avg),
   ("count", .exactly 0, .aggregate .countAll),
   ("count", .exactly 1, .aggregate .count),
   ("group_concat", .between 1 2, .aggregate .groupConcat),
   ("string_agg", .exactly 2, .aggregate .groupConcat),
   ("sum", .exactly 1, .aggregate .sum),
   ("total", .exactly 1, .aggregate .total),
   ("json_group_array", .exactly 1, .aggregate (.jsonGroupArray false)),
   ("jsonb_group_array", .exactly 1, .aggregate (.jsonGroupArray true)),
   ("json_group_object", .exactly 2, .aggregate (.jsonGroupObject false)),
   ("jsonb_group_object", .exactly 2, .aggregate (.jsonGroupObject true)),
   ("row_number", .exactly 0, .window .rowNumber),
   ("rank", .exactly 0, .window .rank),
   ("dense_rank", .exactly 0, .window .denseRank),
   ("percent_rank", .exactly 0, .window .percentRank),
   ("cume_dist", .exactly 0, .window .cumeDist),
   ("ntile", .exactly 1, .window .ntile),
   ("lag", .between 1 3, .window .lag),
   ("lead", .between 1 3, .window .lead),
   ("first_value", .exactly 1, .window .firstValue),
   ("last_value", .exactly 1, .window .lastValue),
   ("nth_value", .exactly 2, .window .nthValue),
   ("coalesce", .atLeast 2, .special .coalesce),
   ("ifnull", .exactly 2, .special .ifnull),
   ("iif", .exactly 3, .special .iif),
   ("likely", .exactly 1, .special .likely),
   ("unlikely", .exactly 1, .special .unlikely),
   ("likelihood", .exactly 2, .special .likelihood)]

/-- What looking a function up finds. -/
inductive Lookup where
  | found (f : FunctionRef)
  | wrongArgs
  | unknown
  deriving Repr, Inhabited

/-- Finds a function by name and argument count. -/
def lookupFunction (name : String) (argc : Nat) : Lookup :=
  let n := name.toLower
  let named := functionTable.filter (·.1 == n)
  match named.find? (·.2.1.allows argc) with
  | some (_, _, f) => .found f
  | none => if named.isEmpty then .unknown else .wrongArgs

/-- What functions read about the connection and the moment: the change counts, the last
inserted rowid, the current time in milliseconds since 1970, and a seed for random values. -/
structure CallEnv where
  changes : Nat := 0
  totalChanges : Nat := 0
  lastRowid : Int := 0
  now : Int := 1704067200000
  seed : Nat := 0
  deriving Repr, Inhabited

/-- Whether a function is an aggregate or window function, which a `filter` or `over` may
follow. -/
def FunctionRef.isAggregate : FunctionRef → Bool
  | .aggregate _ => true
  | _ => false

end RecordMap.Sql
