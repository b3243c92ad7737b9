import DirectoryAccess.Name.Reader
import DirectoryAccess.Name.Written
/-!
# What can go wrong

Every operation on a directory fails with one `Fault`.  A fault is a cause, not a text: what its kind is called
(`Fault.code`), what it says (`Fault.message`), whether trying again may help (`Fault.transient`) and whether it means
that nothing was found (`Fault.notFound`) are functions of it.

Callers that bring entities, records and clients of their own report faults in their own words; each kind has an `other`
cause for these.
-/
namespace DirectoryAccess

/-- An argument that no operation accepts. -/
inductive ArgumentFault where
  | name (given : String) (fault : NameFault)
  | rootEntry
  | rootId
  | unknownProperty (property type : String)
  | unstoredProperty (property : String)
  | operandCount (property : String) (count : Nat)
  | noOperands (property : String)
  | emptyAll
  | emptyAny
  | blankAttribute
  | emptyPage
  | other (message : String)
deriving DecidableEq

/-- An entry, an entity or a record that does not turn into another. -/
inductive MappingFault where
  | noNaming (type : String)
  | namingUnset (attr : String)
  | entityBase (given : String) (fault : NameFault)
  | noRecipe (record type : String)
  | missingArgument (name : String)
  | serverName (given : String) (fault : NameFault)
  | other (message : String)
deriving DecidableEq

/-- Settings that make no sense, or a client that is no longer in use. -/
inductive SettingsFault where
  | zeroConnectTimeout
  | zeroReadTimeout
  | baseScope
  | noHost
  | noBindName
  | bindName (given : String) (fault : NameFault)
  | twoProtections
  | disposed
  | other (message : String)
deriving DecidableEq

/-- The answer of a server that does not do what it was asked. -/
structure Refusal where
  code : UInt32
  matched : String
  text : String
deriving DecidableEq

/-- No usable connection. -/
inductive ConnectionFault where
  | unreachable (url : String)
  | bindLost (bindName : String)
  | bindRefused (code : UInt32) (text : String)
  | probeLost
  | probeRefused (refusal : Refusal)
  | baseMissing (base : String)
  | other (message : String) (source : Option String)
deriving DecidableEq

/-- An operation that was begun and not done. -/
inductive OperationFault where
  | createLost (name : String)
  | updateLost (name : String)
  | deleteLost (name : String)
  | lookupLost
  | searchLost
  | refused (operation : String) (code : UInt32) (text : String)
  | other (message : String) (code : Option UInt32) (source : Option String)
deriving DecidableEq

inductive Fault where
  | invalidArgument (cause : ArgumentFault)
  | unsupported (operation : String)
  | notFound (name : Name)
  | emptyResult
  | cardinality (expected actual : Nat)
  | mapping (cause : MappingFault)
  | connection (cause : ConnectionFault)
  | authentication
  | alreadyExists (name : Name)
  | operation (cause : OperationFault)
  | invalidSettings (cause : SettingsFault)
  | internal (message : String)
deriving DecidableEq

/-! ## Wording -/

def ArgumentFault.message : ArgumentFault → String
  | .name given fault => "invalid DN '" ++ given ++ "': " ++ fault.message
  | .rootEntry => "cannot create an entry at the root DN"
  | .rootId => "entity id must not be the root DN"
  | .unknownProperty property type => "unknown property '" ++ property ++ "' on " ++ type
  | .unstoredProperty property => "property '" ++ property ++ "' is not stored as a directory attribute"
  | .operandCount property count =>
    "predicate on '" ++ property ++ "' needs exactly one value, got " ++ toString count
  | .noOperands property => "empty value list for '" ++ property ++ "'"
  | .emptyAll => "empty AND predicate"
  | .emptyAny => "empty OR predicate"
  | .blankAttribute => "projected attribute names must not be blank"
  | .emptyPage => "page size must be greater than zero"
  | .other message => message

/-- An invalid name as a whole message, for faults that pass it on. -/
def NameFault.quote (given : String) (fault : NameFault) : String :=
  "invalid argument: " ++ (ArgumentFault.name given fault).message

def MappingFault.message : MappingFault → String
  | .noNaming type => type ++ " declares no naming attribute"
  | .namingUnset attr => "naming attribute '" ++ attr ++ "' is not set"
  | .entityBase given fault => "invalid entity base: " ++ fault.quote given
  | .noRecipe record type => "no constructor of " ++ record ++ " can be built from " ++ type
  | .missingArgument name => "constructor parameter '" ++ name ++ "' has no value"
  | .serverName given fault => "server returned an invalid DN '" ++ given ++ "': " ++ fault.quote given
  | .other message => message

def SettingsFault.message : SettingsFault → String
  | .zeroConnectTimeout => "connection_timeout_secs must be greater than zero"
  | .zeroReadTimeout => "read_timeout_secs must be greater than zero"
  | .baseScope => "repository scope must be onelevel or subtree"
  | .noHost => "host is required"
  | .noBindName => "bind_dn is required"
  | .bindName given fault => "bind_dn: " ++ fault.quote given
  | .twoProtections => "cannot use both SSL and STARTTLS"
  | .disposed => "LDAP client has been disposed"
  | .other message => message

/-- The names of the result codes that come up here. -/
def Refusal.codeName (code : UInt32) : String :=
  match code.toNat with
  | 1 => "operationsError"
  | 4 => "sizeLimitExceeded"
  | 10 => "referral"
  | 32 => "noSuchObject"
  | 49 => "invalidCredentials"
  | 50 => "insufficientAccessRights"
  | 68 => "entryAlreadyExists"
  | _ => "unknown"

def Refusal.message (r : Refusal) : String :=
  "LDAP operation result: rc=" ++ toString r.code.toNat ++ " (" ++ Refusal.codeName r.code ++ "), dn: \"" ++ r.matched
    ++ "\", text: \"" ++ r.text ++ "\""

def ConnectionFault.message : ConnectionFault → String
  | .unreachable url => "Failed to connect to LDAP server at " ++ url
  | .bindLost bindName => "LDAP bind failed for " ++ bindName
  | .bindRefused code text => "LDAP bind failed with code " ++ toString code.toNat ++ ": " ++ text
  | .probeLost => "Test search failed"
  | .probeRefused refusal => "Test search failed: " ++ refusal.message
  | .baseMissing base => "Base DN '" ++ base ++ "' not found or not accessible"
  | .other message _ => message

def OperationFault.message : OperationFault → String
  | .createLost name => "Failed to create entry: " ++ name
  | .updateLost name => "Failed to update entry: " ++ name
  | .deleteLost name => "Failed to delete entry: " ++ name
  | .lookupLost => "LDAP lookup failed"
  | .searchLost => "LDAP search failed"
  | .refused operation code text =>
    "LDAP " ++ operation ++ " failed with code " ++ toString code.toNat ++ ": " ++ text
  | .other message _ _ => message

namespace Fault

def message : Fault → String
  | .invalidArgument cause => "invalid argument: " ++ cause.message
  | .unsupported what => "unsupported operation: " ++ what
  | .notFound name => "entry not found: " ++ name.text
  | .emptyResult => "empty result: expected exactly one entry"
  | .cardinality expected actual =>
    "incorrect result size: expected at most " ++ toString expected ++ ", got " ++ toString actual
  | .mapping cause => "mapping failed: " ++ cause.message
  | .connection cause => "connection failed: " ++ cause.message
  | .authentication => "authentication failed: invalid credentials"
  | .alreadyExists name => "entry already exists: " ++ name.text
  | .operation cause => "operation failed: " ++ cause.message
  | .invalidSettings cause => "invalid configuration: " ++ cause.message
  | .internal text => "internal error: " ++ text

/-! ## Kinds -/

/-- The word for the kind of fault. -/
def code : Fault → String
  | .invalidArgument _ => "INVALID_ARGUMENT"
  | .unsupported _ => "UNSUPPORTED"
  | .notFound _ => "NOT_FOUND"
  | .emptyResult => "EMPTY_RESULT"
  | .cardinality _ _ => "RESULT_CARDINALITY"
  | .mapping _ => "MAPPING_FAILED"
  | .connection _ => "CONNECTION_FAILED"
  | .authentication => "AUTH_FAILED"
  | .alreadyExists _ => "ALREADY_EXISTS"
  | .operation _ => "OPERATION_FAILED"
  | .invalidSettings _ => "INVALID_CONFIG"
  | .internal _ => "INTERNAL_ERROR"

/-- Trying again may help: there was no connection. -/
def transient : Fault → Bool
  | .connection _ => true
  | _ => false

/-- There is no such entry, or none where one was expected. -/
def notFound? : Fault → Bool
  | .notFound _ => true
  | .emptyResult => true
  | _ => false

/-- The result code of the server, if it gave one. -/
def resultCode? : Fault → Option UInt32
  | .operation (.refused _ code _) => some code
  | .operation (.other _ code _) => code
  | _ => none

/-- Where a fault comes from. -/
inductive Source where
  | network
  | described (text : String)
deriving DecidableEq

/-- A fault of the network, or one that a caller passed on. -/
def source? : Fault → Option Source
  | .connection (.unreachable _) => some .network
  | .connection (.bindLost _) => some .network
  | .connection .probeLost => some .network
  | .connection (.other _ source) => source.map .described
  | .operation (.createLost _) => some .network
  | .operation (.updateLost _) => some .network
  | .operation (.deleteLost _) => some .network
  | .operation .lookupLost => some .network
  | .operation .searchLost => some .network
  | .operation (.other _ _ source) => source.map .described
  | _ => none

end Fault

/-! ## Names from outside -/

/-- The name that a text from outside stands for. -/
def Name.parse (s : String) : Except Fault Name :=
  (Name.read s).mapError (fun fault => .invalidArgument (.name s fault))

end DirectoryAccess
