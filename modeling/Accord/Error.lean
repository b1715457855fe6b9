import Accord.Access.Privilege
import Accord.Json.Problem

/-!
# Errors

An operation fails for one cause.  The causes come in kinds: a value outside its domain, a feature
that the server lacks, a statement or a commit that failed, an object that is not there, and so on.
The kind has a stable code (`Error.code`), the cause has a wording (`Error.message`), and only a
failed commit leaves it open what the catalog holds (`Error.needsReread`).
-/

namespace Accord

/-- Why a declared value is refused. -/
inductive Invalid where
  | emptyName (what : String)
  /-- A name that the server would cut off. -/
  | longName (what name : String)
  | nullInName (what : String)
  /-- An identity with a wrong number of parts, or with an empty one. -/
  | identityFormat (id : String) (expected : List String)
  | unknownObjectType (name : String)
  | privilegeNotAllowed (raw : String) (type : ObjectType)
  /-- A rule without any privilege. -/
  | noPrivileges
  /-- A connection limit below the one that means no limit. -/
  | connectionLimit
  /-- A server version that does not start with a number. -/
  | serverVersion (raw : String)
  /-- A server version with a number of more than 64 bits. -/
  | serverVersionRange (raw : String)
  /-- An observed state that is not the one of the role to update. -/
  | otherRole (observed name : String)
  /-- A schema that would change its database. -/
  | movedSchema (name observed declared : String)
  /-- An extension that would change its name. -/
  | renamedExtension (observed declared : String)
  /-- An extension that would change its database. -/
  | movedExtension (name observed declared : String)
  /-- A rule that would change its database. -/
  | movedRule (observed declared : String)
  /-- An extension without a database. -/
  | databaseNotSet
  /-- A cause that comes from elsewhere, in its own words. -/
  | other (message : String)
deriving DecidableEq

/-- The wording of an invalid value. -/
def Invalid.message : Invalid → String
  | .emptyName what => what ++ " name cannot be empty"
  | .longName what name =>
    what ++ " name '" ++ name ++ "' exceeds 63 bytes and would be truncated by the server"
  | .nullInName what => what ++ " name contains a NUL byte"
  | .identityFormat id expected =>
    "identity '" ++ id ++ "' has not the expected format '" ++ String.intercalate "-" expected
      ++ "'"
  | .unknownObjectType name => "unknown object type " ++ name
  | .privilegeNotAllowed raw type =>
    raw ++ " is not an allowed privilege for object type " ++ type.name
  | .noPrivileges => "privileges cannot be empty"
  | .connectionLimit => "connection_limit can not be less than -1"
  | .serverVersion raw => "Invalid server version '" ++ raw ++ "'"
  | .serverVersionRange raw =>
    "Invalid server version '" ++ raw ++ "': number too large to fit in target type"
  | .otherRole observed name =>
    "Observed state is for role \"" ++ observed ++ "\", not \"" ++ name ++ "\""
  | .movedSchema name observed declared =>
    "moving schema '" ++ name ++ "' from database '" ++ observed ++ "' to '" ++ declared
      ++ "' requires replacement"
  | .renamedExtension observed declared =>
    "renaming extension '" ++ observed ++ "' to '" ++ declared ++ "' requires replacement"
  | .movedExtension name observed declared =>
    "moving extension '" ++ name ++ "' from database '" ++ observed ++ "' to '" ++ declared
      ++ "' requires replacement"
  | .movedRule observed declared =>
    "moving default privileges from database '" ++ observed ++ "' to '" ++ declared
      ++ "' requires replacement"
  | .databaseNotSet => "extension database is not set"
  | .other message => message

/-- Why a row of a catalog query cannot be read. -/
inductive BadRow where
  /-- The result has no such column, or the row ends before it. -/
  | missingColumn (column : String)
  /-- The column holds another type. -/
  | notA (column expected : String)
  | isNull (column : String)
  /-- The connection limit is above all numbers of 32 bits. -/
  | largeConnectionLimit
  /-- The connection limit is below all numbers of 32 bits. -/
  | smallConnectionLimit
  /-- The catalog names a privilege that does not exist. -/
  | unknownPrivilege (raw : String)
  /-- A cause that comes from elsewhere, in its own words. -/
  | other (message : String)
deriving DecidableEq

/-- The wording of a row that cannot be read. -/
def BadRow.message : BadRow → String
  | .missingColumn column => "Missing column '" ++ column ++ "' in catalog result"
  | .notA column expected => "Column '" ++ column ++ "' is not a " ++ expected
  | .isNull column => "Column '" ++ column ++ "' is NULL"
  | .largeConnectionLimit =>
    "Invalid connection limit: number too large to fit in target type"
  | .smallConnectionLimit =>
    "Invalid connection limit: number too small to fit in target type"
  | .unknownPrivilege raw => "Unknown privilege '" ++ raw ++ "' in pg_default_acl"
  | .other message => message

/-- What is wrong with a configuration. -/
inductive BadConfig where
  /-- The profile does not allow changes. -/
  | readOnly
  /-- No profile is named, and there is no default among the available ones. -/
  | noDefaultProfile (available : List String)
  /-- The named profile is not among the available ones. -/
  | unknownProfile (name : String) (available : List String)
  /-- The variable that should hold the password is not set. -/
  | noVariable (name : String)
  | cannotRead (path detail : String)
  /-- The file does not hold what it should. -/
  | invalidFile (path : String) (problem : Problem)
  /-- The directory of the file cannot be made. -/
  | cannotMakeDirectory (detail : String)
  /-- The file cannot be written. -/
  | cannotWrite (path detail : String)
  | invalidDocument (problem : Problem)
  /-- The connection lacks a parameter. -/
  | missingParameter (name : String)
  /-- The user has no directory for configuration. -/
  | noConfigDirectory
  /-- A cause that comes from elsewhere, in its own words. -/
  | other (message : String)
deriving DecidableEq

/-- The wording of a configuration error. -/
def BadConfig.message : BadConfig → String
  | .readOnly => "Connection profile is read-only, catalog mutations are disabled"
  | .noDefaultProfile available =>
    "No default connection profile. Available profiles: " ++ Text.quotedList available
  | .unknownProfile name available =>
    "Connection profile '" ++ name ++ "' not found. Available profiles: "
      ++ Text.quotedList available
  | .noVariable name => "Environment variable " ++ name ++ " not found for password"
  | .cannotRead path detail => "Could not read " ++ path ++ ": " ++ detail
  | .invalidFile path problem => "Invalid config file " ++ path ++ ": " ++ problem.message
  | .cannotMakeDirectory detail => "Could not create config directory: " ++ detail
  | .cannotWrite path detail => "Could not write " ++ path ++ ": " ++ detail
  | .invalidDocument problem => "Invalid desired-state document: " ++ problem.message
  | .missingParameter name => "PostgreSQL requires '" ++ name ++ "' parameter"
  | .noConfigDirectory => "Could not determine user config directory"
  | .other message => message

/-- Why an operation fails. -/
inductive Error where
  /-- The object is not in the catalog. -/
  | notFound (message : String)
  /-- A declared value is outside its domain. -/
  | validation (cause : Invalid)
  /-- The server lacks a feature. -/
  | unsupported (feature version : String)
  /-- A statement failed, and its transaction was rolled back. -/
  | statement (operation detail : String)
  /-- The commit failed, and nobody knows what the catalog holds. -/
  | commit (detail : String)
  /-- The lock could not be taken in time. -/
  | lock (message : String)
  /-- The server cannot be reached, or does not answer as it should. -/
  | connectionFailed (message : String)
  /-- A catalog query failed, or its result cannot be read. -/
  | queryFailed (cause : BadRow)
  /-- The configuration is wrong. -/
  | config (cause : BadConfig)
deriving DecidableEq

namespace Error

/-- The stable code of the kind of error. -/
def code : Error → String
  | .notFound _ => "NOT_FOUND"
  | .validation _ => "VALIDATION_ERROR"
  | .unsupported _ _ => "UNSUPPORTED_FEATURE"
  | .statement _ _ => "STATEMENT_FAILED"
  | .commit _ => "COMMIT_FAILED"
  | .lock _ => "LOCK_UNAVAILABLE"
  | .connectionFailed _ => "CONNECTION_FAILED"
  | .queryFailed _ => "QUERY_FAILED"
  | .config _ => "CONFIG_ERROR"

/-- The wording of an error: the kind of error first, then the cause. -/
def message : Error → String
  | .notFound message => "Not found: " ++ message
  | .validation cause => "Validation error: " ++ cause.message
  | .unsupported feature version =>
    "Unsupported feature: " ++ feature ++ " is not available on server version " ++ version
  | .statement operation detail => "Statement failed while " ++ operation ++ ": " ++ detail
  | .commit detail =>
    "Commit failed, catalog state must be re-read before retrying: " ++ detail
  | .lock message => "Catalog lock unavailable: " ++ message
  | .connectionFailed message => "Connection failed: " ++ message
  | .queryFailed cause => "Query execution failed: " ++ cause.message
  | .config cause => "Configuration error: " ++ cause.message

/-- Whether the catalog has to be read again before another attempt. -/
def needsReread : Error → Bool
  | .commit _ => true
  | _ => false

/-- What went wrong on the server, without the words around it. -/
def detail : Error → String
  | .queryFailed cause => cause.message
  | .connectionFailed message => message
  | .statement _ detail => detail
  | e => e.message

end Error

end Accord
