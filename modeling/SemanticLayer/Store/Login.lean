import SemanticLayer.Json.Scan
import SemanticLayer.Settings.Deployment
import SemanticLayer.Store.Row
import SemanticLayer.Text.MachineNumber

/-
# Logins

A database is named by the text `user:password@machines/database?options`, made
of settings as they stand: a mark in a setting counts as a mark of the text.
Machines stand between commas, each with its port behind a colon, and options
`name=value` between `&`.  A byte may be written as two hexadecimal digits
behind a percent sign; what is written so is text, but for the password and a
path in place of a machine.

A text that does not read so is no connection string.  One that reads, but
counts its machines in two ways or has ports for some of them only, is no
configuration.
-/

namespace SemanticLayer

/-- Where a database is, and who asks for what. -/
structure Login where
  user : String
  /-- The database, if one is named. -/
  database : Option String
  /-- The machines by name, or by the path of a socket. -/
  machines : List (List UInt8)
  /-- The machines by number. -/
  numbers : List String
  ports : List Nat
deriving DecidableEq

namespace Login

/-! ### Parts of the text -/

/-- The bytes of a text in which a byte may be written behind a percent sign. -/
def percentDecoded : List Char → List UInt8
  | '%' :: a :: b :: rest =>
    match Json.Scan.hexNumber? [a, b] with
    | some n => UInt8.ofNat n :: percentDecoded rest
    | none => '%'.toUInt8 :: percentDecoded (a :: b :: rest)
  | c :: rest => (String.singleton c).toUTF8.toList ++ percentDecoded rest
  | [] => []

/-- The text of bytes, if they are one. -/
def bytesText? (bytes : List UInt8) : Option String :=
  String.fromUTF8? (ByteArray.mk bytes.toArray)

/-- A part as it is meant. -/
def part? (cs : List Char) : Option String := bytesText? (percentDecoded cs)

/-- A whole number of 64 bits: digits, behind a sign or nothing. -/
def seconds? (s : String) : Option Int :=
  match s.toList with
  | '-' :: '+' :: _ => none
  | '-' :: ds => (fun (n : Nat) => -(n : Int)) <$> wholeNumber? (Nat.pow 2 63 + 1) (String.ofList ds)
  | _ => (fun (n : Nat) => (n : Int)) <$> wholeNumber? (Nat.pow 2 63) s

/-! ### Machines -/

/-- A login with one more machine: a path if it starts with a slash, and otherwise a name. -/
def withMachine (l : Login) (cs : List Char) : Option Login :=
  let bytes := percentDecoded cs
  if bytes.head? = some '/'.toUInt8 || (bytesText? bytes).isSome then
    some { l with machines := l.machines ++ [bytes] }
  else none

/-- The port of a text; none stands for the usual one. -/
def port? (s : String) : Option Nat :=
  if s.isEmpty then some 5432 else wholeNumber? (Nat.pow 2 16) s

/-- A login with more ports, between commas. -/
def withPorts (l : Login) (s : String) : Option Login := do
  let ports ← (Text.Address.cutAll [','] s.toList).mapM fun cs => port? (String.ofList cs)
  return { l with ports := l.ports ++ ports }

/-- A machine and its port, if it has one.  A machine in square brackets may have colons. -/
def machineAndPort? : List Char → Option (List Char × Option (List Char))
  | '[' :: rest =>
    let (machine, rest) := Text.Address.cut [']'] rest
    match rest with
    | [] => none
    | [_] => some (machine, none)
    | _ :: ':' :: port => some (machine, some port)
    | _ => none
  | cs =>
    let (machine, rest) := Text.Address.cut [':'] cs
    some (machine, Text.Address.behind ':' rest)

/-- A login with one more machine and its port. -/
def withMachineAndPort (l : Login) (cs : List Char) : Option Login := do
  let (machine, port) ← machineAndPort? cs
  let l ← l.withMachine machine
  match port with
  | some port => l.withPorts (← part? port)
  | none => return { l with ports := l.ports ++ [5432] }

/-! ### Options -/

/-- Whether an option that bears on neither the login nor the machines may have a value; nothing
for a name that is no option. -/
def allows (name value : String) : Bool :=
  match name with
  | "password" | "options" | "application_name" => true
  | "sslmode" | "channel_binding" => ["disable", "prefer", "require"].contains value
  | "sslnegotiation" => ["postgres", "direct"].contains value
  | "target_session_attrs" => ["any", "read-write", "read-only"].contains value
  | "load_balance_hosts" => ["disable", "random"].contains value
  | "connect_timeout" | "tcp_user_timeout" | "keepalives_idle" | "keepalives_interval" =>
    (seconds? value).isSome
  | "keepalives" => (wholeNumber? (Nat.pow 2 64) value).isSome
  | "keepalives_retries" => (wholeNumber? (Nat.pow 2 32) value).isSome
  | _ => false

/-- A login with an option. -/
def withOption (l : Login) (cs : List Char) : Option Login := do
  let (name, rest) := Text.Address.cut ['='] cs
  let value ← Text.Address.behind '=' rest
  let name ← part? name
  if name = "host" then l.withMachine value
  else
    let value ← part? value
    match name with
    | "user" => return { l with user := value }
    | "dbname" => return { l with database := some value }
    | "port" => l.withPorts value
    | "hostaddr" =>
      let numbers := Text.Address.cutAll [','] value.toList
      if numbers.all Text.isMachineNumber then
        return { l with numbers := l.numbers ++ numbers.map String.ofList }
      else none
    | _ => if allows name value then return l else none

/-- The options of a text; it may end in `&`. -/
def options (cs : List Char) : List (List Char) :=
  let all := Text.Address.cutAll ['&'] cs
  if all.getLast? = some [] then all.dropLast else all

/-! ### Logins -/

/-- The login of a text, if it is a connection string. -/
def ofText? (cs : List Char) : Option Login := do
  let (credentials, rest) := Text.Address.cut ['@'] cs
  let user ← part? (Text.Address.cut [':'] credentials).1
  let (machines, rest) := Text.Address.cut ['/', '?'] (rest.drop 1)
  let machines := if machines.isEmpty then [] else Text.Address.cutAll [','] machines
  let l ← machines.foldlM withMachineAndPort ⟨user, none, [], [], []⟩
  let (database, rest) := match Text.Address.behind '/' rest with
    | some rest => Text.Address.cut ['?'] rest
    | none => ([], rest)
  let l ← if database.isEmpty then some l
    else (fun name => { l with database := some name }) <$> part? database
  (options (rest.drop 1)).foldlM withOption l

/-- Whether the parts of a login agree: machines that are named in two ways are as many in each,
and several ports are one for each machine. -/
def agrees (l : Login) : Bool :=
  let names := l.machines.length
  let numbers := l.numbers.length
  names + numbers != 0 && (names = 0 || numbers = 0 || names = numbers) &&
    (l.ports.length ≤ 1 || l.ports.length = max names numbers)

/-- The error of a login whose machines cannot be reached. -/
def unreachable : StoreError := .connection "error connecting to server"

end Login

/-- The login of settings. -/
def DatabaseSettings.login (s : DatabaseSettings) : Except StoreError Login :=
  let text := s.user ++ ":" ++ s.password ++ "@" ++ s.host ++ "/" ++ s.database
  match Login.ofText? text.toList with
  | none => .error (.connection "invalid connection string")
  | some l => if l.agrees then .ok l else .error (.connection "invalid configuration")

end SemanticLayer
