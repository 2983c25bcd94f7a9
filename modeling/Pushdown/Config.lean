import Pushdown.Error

/-!
The configuration of one connector: where the database is, who connects, how identifiers are
quoted and which schemas are hidden.
-/
namespace Pushdown

/-- A bag of named settings that is handed over with every connection. -/
abbrev Properties := Named String

namespace Properties

def userKey : String := "user"

def passwordKey : String := "password"

def fetchSizeKey : String := "fetch_size"

def synonymsKey : String := "include_synonyms"

end Properties

def defaultFetchSize : Nat := 10000

structure Config where
  connectorId : String
  dialect : String
  url : String
  user : Option String
  password : Option String
  identifierQuote : String
  fetchSize : Nat
  excludedSchemas : List String
  fetchSize_pos : 0 < fetchSize
  quote_short : identifierQuote.length ≤ 1

namespace Config

/-- The names between the commas of a text, trimmed, without the empty ones. -/
def splitNames (s : String) : List String :=
  ((s.toList.splitOn ',').map Text.trimChars).filterMap fun cs =>
    if cs.isEmpty then none else some (String.ofList cs)

structure Quote where
  text : String
  short : text.length ≤ 1

structure FetchSize where
  val : Nat
  pos : 0 < val

def asQuote (raw : Raw) : Checked Quote := do
  let s ← raw.asText
  if h : s.length ≤ 1 then .ok ⟨s, h⟩
  else .reject "identifier_quote must be a single character or empty"

def asFetchSize (raw : Raw) : Checked FetchSize := do
  let n ← raw.asInteger
  if h : 0 < n.toNat then .ok ⟨n.toNat, h⟩ else .fail .notPositive

/-- A list of names, or one text that holds them. -/
def asNames : Raw → Checked (List String)
  | .text s => .ok (splitNames s)
  | raw => raw.asList Raw.asText

def ofFields (fields : Fields) : Checked Config :=
  let make connectorId dialect url user password (quote : Quote) (fetchSize : FetchSize)
      excludedSchemas : Config :=
    { connectorId, dialect, url, user, password, excludedSchemas
      identifierQuote := quote.text, quote_short := quote.short
      fetchSize := fetchSize.val, fetchSize_pos := fetchSize.pos }
  ((((((((Checked.start make).app
    (fields.getOr "connector_id" Raw.asText "oracle")).app
    (fields.getOr "dialect" Raw.asText "oracle")).app
    (fields.required "connection_url" Raw.asText)).app
    (fields.getOr "connection_user" (Raw.orNull Raw.asText) none)).app
    (fields.getOr "connection_password" (Raw.orNull Raw.asText) none)).app
    (fields.getOr "identifier_quote" asQuote ⟨"\"", by decide⟩)).app
    (fields.getOr "fetch_size" asFetchSize ⟨defaultFetchSize, by decide⟩)).app
    (fields.getOr "excluded_schemas" asNames [])

/-- The environment name of each field, after the common beginning. -/
def envNames : List (String × String) := [
  ("connector_id", "CONNECTOR_ID"), ("dialect", "DIALECT"), ("connection_url", "URL"),
  ("connection_user", "USER"), ("connection_password", "PASSWORD"),
  ("identifier_quote", "IDENTIFIER_QUOTE"), ("fetch_size", "FETCH_SIZE"),
  ("excluded_schemas", "EXCLUDED_SCHEMAS")]

def defaultEnvStart : String := "SQL_CONNECTOR_"

/-- The fields that an environment sets. -/
def envFields (env : EnvFile.Environment) (start : String) : Fields :=
  envNames.filterMap fun (field, suffix) =>
    (env.lookup (start ++ suffix)).map fun value => (field, .text value)

/-- The environment, which has to be a possible one, with the settings of a file if there is
one. -/
def envWith (env : EnvFile.Environment) (file? : Option String) :
    Except EnvFile.SettingFault EnvFile.Environment := do
  let env ← env.mapM EnvFile.checkSetting
  match file? with
  | some text => EnvFile.load env text
  | none => return env

/-- The configuration that an environment gives, with the settings of a file if there is one. -/
def ofEnv (env : EnvFile.Environment) (file? : Option String) (start : String) :
    Except Error Config := do
  let full ← (envWith env file?).mapError Error.setting
  (ofFields (envFields full start)).mapError Error.invalid

/-- What is sent with every connection. -/
def properties (c : Config) : Properties :=
  (Properties.fetchSizeKey, toString c.fetchSize)
    :: (c.user.map (Properties.userKey, ·)).toList
    ++ (c.password.map (Properties.passwordKey, ·)).toList

end Config
end Pushdown
