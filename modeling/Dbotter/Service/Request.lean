import Dbotter.Config.Profile

/-!
Requests to the service, and the checks that read nothing but the request.
-/

namespace Dbotter.Service
open Dbotter.Utf8 Dbotter.Execution Dbotter.Configuration

abbrev ProfileId := Text
abbrev ProfileGeneration := Nat
abbrev SessionGeneration := Nat
abbrev OperationId := Nat
abbrev DraftId := Nat

/-- A duration in nanoseconds. -/
abbrev Duration := Nat

def seconds (n : Nat) : Duration := n * 10 ^ 9

def asSecs (d : Duration) : Nat := d / 10 ^ 9

inductive QueryLanguage
  | sql
  | redisCommand
  | mongoDocument
  deriving DecidableEq, Repr

def language : DriverKind → QueryLanguage
  | .mySql => .sql
  | .redis => .redisCommand
  | .mongoDb => .mongoDocument

structure RequestIdentity where
  profileId : ProfileId
  profileGeneration : ProfileGeneration
  operationId : OperationId
  deriving DecidableEq, Repr

inductive RequestValidationError
  | invalidRowLimit
  | invalidExecuteTimeout
  | emptyStatement
  | emptyRedisCommand
  | redisCommandTooLarge
  | tooManyRedisTokens
  | redisTokenTooLarge
  | redisCommandDenied
  | invalidCatalogPageSize
  | invalidCatalogTimeout
  | emptyCatalogParent
  | emptyCatalogPageToken
  | redisFilterTooLarge
  | invalidRedisScanCount
  | redisKeyTooLarge
  deriving DecidableEq, Repr

def maxCatalogTimeout : Duration := seconds 30
def maxCatalogPageSize : Nat := 200
def maxRedisScanCount : Nat := 1000
def maxRedisFilterBytes : Nat := 512
def maxRedisKeyBytes : Nat := 4 * 1024

/-! ## Executing -/

structure ExecuteRequest where
  operationId : OperationId
  profileId : ProfileId
  profileGeneration : ProfileGeneration
  language : QueryLanguage
  text : Text
  rowLimit : Nat
  timeout : Duration
  deriving DecidableEq, Repr

def ExecuteRequest.identity (request : ExecuteRequest) : RequestIdentity :=
  ⟨request.profileId, request.profileGeneration, request.operationId⟩

def validateExecuteLimits (rowLimit : Nat) (timeout : Duration) :
    Except RequestValidationError Unit :=
  if rowLimit == 0 || rowLimit > maxExecuteRowLimit then .error .invalidRowLimit
  else if timeout < seconds 1 || timeout > seconds maxExecuteTimeoutSeconds then
    .error .invalidExecuteTimeout
  else .ok ()

structure PreparedMySqlRequest where
  identity : RequestIdentity
  statement : Text
  rowLimit : Nat
  timeout : Duration
  deriving DecidableEq, Repr

def PreparedMySqlRequest.validate (request : PreparedMySqlRequest) :
    Except RequestValidationError Unit :=
  if (trim request.statement).isEmpty then .error .emptyStatement
  else validateExecuteLimits request.rowLimit request.timeout

structure RedisExecuteRequest where
  identity : RequestIdentity
  argv : List (List UInt8)
  rowLimit : Nat
  timeout : Duration
  deriving DecidableEq, Repr

/-- The bytes of the command with one separator between two tokens. -/
def commandBytes (argv : List (List UInt8)) : Nat :=
  argv.foldl (fun total argument => total + argument.length + 1) 0 - 1

def RedisExecuteRequest.validate (request : RedisExecuteRequest) :
    Except RequestValidationError Unit := do
  validateExecuteLimits request.rowLimit request.timeout
  if request.argv.head?.all List.isEmpty then .error .emptyRedisCommand
  else if request.argv.length > maxRedisTokens then .error .tooManyRedisTokens
  else if request.argv.any (·.length > maxRedisTokenBytes) then .error .redisTokenTooLarge
  else if commandBytes request.argv > maxRedisTargetBytes then .error .redisCommandTooLarge
  else if redisBytesAreDenied request.argv then .error .redisCommandDenied
  else .ok ()

inductive TypedExecuteRequest
  | mySql (request : PreparedMySqlRequest)
  | redis (request : RedisExecuteRequest)
  deriving DecidableEq, Repr

/-! ## Browsing -/

inductive CatalogLevel
  | schemas
  | relations (schema : Text)
  | columns (schema relation : Text)
  deriving DecidableEq, Repr

structure CatalogRequest where
  identity : RequestIdentity
  level : CatalogLevel
  /-- The `prefix` of the names to list. -/
  namePrefix : Option Text
  pageToken : Option Text
  pageSize : Nat
  timeout : Duration
  deriving DecidableEq, Repr

def CatalogLevel.parentsValid : CatalogLevel → Bool
  | .schemas => true
  | .relations schema => !schema.isEmpty
  | .columns schema relation => !schema.isEmpty && !relation.isEmpty

def validBrowseTimeout (timeout : Duration) : Bool :=
  !(timeout < seconds 1 || timeout > maxCatalogTimeout)

def CatalogRequest.validate (request : CatalogRequest) : Except RequestValidationError Unit :=
  if request.pageSize == 0 || request.pageSize > maxCatalogPageSize then
    .error .invalidCatalogPageSize
  else if !validBrowseTimeout request.timeout then .error .invalidCatalogTimeout
  else if !request.level.parentsValid then .error .emptyCatalogParent
  else if request.pageToken.any List.isEmpty then .error .emptyCatalogPageToken
  else .ok ()

inductive RedisKeyFilter
  | literalPrefix (value : Text)
  | glob (value : Text)
  deriving DecidableEq, Repr

def RedisKeyFilter.value : RedisKeyFilter → Text
  | .literalPrefix value | .glob value => value

structure RedisScanRequest where
  identity : RequestIdentity
  filter : RedisKeyFilter
  cursor : Nat
  countHint : Nat
  timeout : Duration
  deriving DecidableEq, Repr

def RedisScanRequest.validate (request : RedisScanRequest) : Except RequestValidationError Unit :=
  if byteLen request.filter.value > maxRedisFilterBytes then .error .redisFilterTooLarge
  else if request.countHint == 0 || request.countHint > maxRedisScanCount then
    .error .invalidRedisScanCount
  else if !validBrowseTimeout request.timeout then .error .invalidCatalogTimeout
  else .ok ()

structure RedisKeyInspectRequest where
  identity : RequestIdentity
  key : List UInt8
  timeout : Duration
  deriving DecidableEq, Repr

def RedisKeyInspectRequest.validate (request : RedisKeyInspectRequest) :
    Except RequestValidationError Unit :=
  if request.key.length > maxRedisKeyBytes then .error .redisKeyTooLarge
  else if !validBrowseTimeout request.timeout then .error .invalidCatalogTimeout
  else .ok ()

end Dbotter.Service
