import SheetIntake.Assoc
import SheetIntake.Decimal.Numeral
import SheetIntake.Text.Case

/-!
# Settings

Settings come from named texts. Blanks around a text do not count, and a blank text is as good as
none. Each setting has a default for what is missing or cannot be read.
-/

namespace SheetIntake.Service

open Decimal Text

/-- The settings of the service. -/
structure Settings where
  databaseUrl : String
  databaseAutoCreate : Bool
  maxUploadBytes : Int
  corsAllowOrigins : Option String
  logDirectory : String
  logLevel : String
  schemaConfigPath : Option String
  host : String
  portNumber : Int
  deriving DecidableEq, Repr

namespace Settings

/-- Named texts. Of several with one name the last counts. -/
abbrev Environment := List (String × String)

/-- The text of a name without blanks around it, if there is one that is not blank. -/
def text? (environment : Environment) (name : String) : Option String :=
  ((Assoc.get? environment.reverse name).map stripped).filter (· ≠ "")

/-- The words that switch a setting on. -/
def truthWords : List String := ["1", "true", "yes", "y", "on"]

/-- A setting that is on or off. Any other word switches it off. -/
def switch (environment : Environment) (name : String) (absent : Bool) : Bool :=
  match text? environment name with
  | some word => truthWords.contains (lower word)
  | none => absent

/-- A setting that is an integer. What is no integer counts as missing. -/
def integer (environment : Environment) (name : String) (absent : Int) : Int :=
  ((text? environment name).bind readInteger?).getD absent

/-- A setting that is a text. -/
def text (environment : Environment) (name absent : String) : String :=
  (text? environment name).getD absent

/-- The place of the database where none is set. -/
def defaultDatabase : String := "sqlite:///./records.db"

/-- The greatest size of an upload where none is set. -/
def defaultUploadLimit : Int := 2097152

/-- The settings of an environment, for a program in a folder. -/
def read (environment : Environment) (folder : String) : Settings where
  databaseUrl := text environment "DATABASE_URL" defaultDatabase
  databaseAutoCreate := switch environment "DB_AUTO_CREATE" true
  maxUploadBytes := integer environment "MAX_UPLOAD_BYTES" defaultUploadLimit
  corsAllowOrigins := text? environment "CORS_ALLOW_ORIGINS"
  logDirectory := text environment "LOG_DIR" (folder ++ "/logs")
  logLevel := upper (text environment "LOG_LEVEL" "INFO")
  schemaConfigPath := text? environment "SCHEMA_CONFIG_PATH"
  host := text environment "HOST" "0.0.0.0"
  portNumber := integer environment "PORT" 8000

/-- The mark that allows every origin. -/
def anyOrigin : String := "*"

/-- The origins that a text lists between commas. Blank items do not count. -/
def originsOf (listed : String) : List String :=
  let items := listed.toList.splitOn ','
  (items.map fun item => String.ofList (strip isBlank item)).filter (· ≠ "")

/-- The origins that are allowed. -/
def origins (settings : Settings) : List String :=
  match settings.corsAllowOrigins with
  | none => [anyOrigin]
  | some listed => if stripped listed = anyOrigin then [anyOrigin] else originsOf listed

end Settings

end SheetIntake.Service
