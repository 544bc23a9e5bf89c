import Mathlib.Data.String.Basic
import Hatohol.Container.OrderedMap
import Hatohol.DBTablesHostgroup
import Hatohol.Sql.Statements
import Hatohol.Time.Digits

/-!
# Parameters of requests

How the filters for hosts are read from the parameters of a request, and how the name of a host group
is turned into such a filter (server/src/RestResourceUtils.cc:29-198, 455-473).
-/

namespace Hatohol

open Container

/-- The parameters of a request in the order in which their hash table is walked. -/
structure Query where
  params : List (String × CString)
  nodup : (params.map Prod.fst).Nodup

namespace StringUtils

/-- What is left of a number, with the dots so far. -/
def isNumberFrom : List Char → Nat → Bool
  | [], _ => true
  | c :: cs, countDot =>
      if c = '.' then if countDot + 1 ≥ 2 then false else isNumberFrom cs (countDot + 1)
      else if c < '0' ∨ '9' < c then false
      else isNumberFrom cs countDot

/-- (StringUtils.cc:171-193) This function allows '+' and '-' at the head. -/
def isNumber (str : List Char) : Bool :=
  match str with
  | '+' :: cs | '-' :: cs => isNumberFrom cs 0
  | cs => isNumberFrom cs 0

/-- The sign of a number, which may be left out, and what follows. -/
def splitSign : List Char → Bool × List Char
  | '-' :: cs => (true, cs)
  | '+' :: cs => (false, cs)
  | cs => (false, cs)

/-- (StringUtils.cc:232-237) The variable is not initialised, so that it is any number where `sscanf`
    finds no digit. A number that is too big is the biggest one. -/
def toUint64 (uninitialised : UInt64) (numStr : List Char) : UInt64 :=
  let (negative, cs) := splitSign (numStr.dropWhile Char.isWhitespace)
  let digits := cs.takeWhile Char.isDigit
  if digits = [] then uninitialised
  else if Time.value digits ≥ 2 ^ 64 then UInt64.ofNat (2 ^ 64 - 1)
  else if negative then -UInt64.ofNat (Time.value digits)
  else UInt64.ofNat (Time.value digits)

end StringUtils

namespace RestResourceUtils

open StringUtils

/-- The last part of the key of a filter. -/
inductive IdType where
  | serverId
  | hostgroupId
  | hostId
  deriving DecidableEq, Repr

def IdType.name : IdType → String
  | serverId => "serverId"
  | hostgroupId => "hostgroupId"
  | hostId => "hostId"

/-- A `map<string, string>` from the types. -/
structure IdMap where
  serverId : Option CString
  hostgroupId : Option CString
  hostId : Option CString
  deriving DecidableEq, Repr

namespace IdMap

def empty : IdMap := ⟨none, none, none⟩

def find? (m : IdMap) : IdType → Option CString
  | .serverId => m.serverId
  | .hostgroupId => m.hostgroupId
  | .hostId => m.hostId

def set (m : IdMap) (idType : IdType) (value : CString) : IdMap :=
  match idType with
  | .serverId => { m with serverId := some value }
  | .hostgroupId => { m with hostgroupId := some value }
  | .hostId => { m with hostId := some value }

theorem find?_set (m : IdMap) (idType idType' : IdType) (value : CString) :
    (m.set idType value).find? idType' = if idType' = idType then some value else m.find? idType' := by
  cases idType <;> cases idType' <;> rfl

end IdMap

abbrev StringMap := OrderedMap String IdMap

/-- The texts of the errors, which all have the code HTERR_INVALID_PARAMETER. -/
abbrev Errors := List String

/-- The prefix and the suffix do not overlap, as one ends with a bracket that the other does not begin
    with. -/
def parseId (selectType : String) (idType : IdType) (acc : StringMap × Errors) (key : String)
    (value : CString) : StringMap × Errors :=
  let pre := (selectType ++ "[").toList
  let suf := ("][" ++ idType.name ++ "]").toList
  if !pre.isPrefixOf key.toList then acc
  else if !suf.isSuffixOf key.toList then acc
  else
    let idLength := key.toList.length - pre.length - suf.length
    let index := (key.toList.drop pre.length).take idLength
    if index.isEmpty then
      (acc.1, acc.2 ++ ["An index for a host filter is missing!: " ++ key ++ "=" ++ value.text])
    else if !isNumber index then
      (acc.1, acc.2 ++ ["An index for a host filter isn't numeric!: " ++ String.ofList index])
    else if idType = .serverId ∧ !isNumber value.text.toList then
      (acc.1, acc.2 ++ ["A serverId for a host filter isn't numeric!: " ++ value.text])
    else
      (acc.1.set (String.ofList index)
        (((acc.1.find? (String.ofList index)).getD .empty).set idType value), acc.2)

def parseHostQuery (selectType : String) (acc : StringMap × Errors) (key : String)
    (value : CString) : StringMap × Errors :=
  let acc := parseId selectType .serverId acc key value
  let acc := parseId selectType .hostgroupId acc key value
  parseId selectType .hostId acc key value

/-- What is read before the filters are converted. -/
structure ParsedFilters where
  selected : StringMap
  excluded : StringMap
  errors : Errors

/-- `gHashTableForeachFunc` -/
def parseParam (data : ParsedFilters) (param : String × CString) : ParsedFilters :=
  if "s".toList.isPrefixOf param.1.toList then
    let (selected, errors) := parseHostQuery "s" (data.selected, data.errors) param.1 param.2
    { data with selected, errors }
  else if "e".toList.isPrefixOf param.1.toList then
    let (excluded, errors) := parseHostQuery "e" (data.excluded, data.errors) param.1 param.2
    { data with excluded, errors }
  else data

def parse (query : Query) : ParsedFilters := query.params.foldl parseParam ⟨.empty, .empty, []⟩

/-- The sets of a `FilterSet`. -/
structure FilterSets where
  servers : ServerIdSet
  hostgroups : ServerHostGrpSetMap
  hosts : ServerHostSetMap

/-- `m[serverId].insert(id)` -/
def insertId (m : Std.TreeMap ServerIdType (Std.TreeSet CString)) (serverId : ServerIdType)
    (id : CString) : Std.TreeMap ServerIdType (Std.TreeSet CString) :=
  m.alter serverId fun ids => some ((ids.getD ∅).insert id)

/-- The conversion to a `ServerIdType`. -/
def toServerId (uninitialised : UInt64) (text : CString) : ServerIdType :=
  (toUint64 uninitialised text.text.toList).toUInt32.toInt32.toInt

def convertEntry (uninitialised : UInt64) (acc : FilterSets × Errors) (idMap : IdMap) :
    FilterSets × Errors :=
  match idMap.serverId with
  | none => (acc.1, acc.2 ++ ["serverId is missing for a host filter!"])
  | some serverId =>
      let serverId := toServerId uninitialised serverId
      match idMap.hostgroupId, idMap.hostId with
      | some _, some _ =>
          (acc.1, acc.2 ++ ["Both hostgroupId and hostId can't be specified for a host filter!"])
      | some hostgroupId, none =>
          ({ acc.1 with hostgroups := insertId acc.1.hostgroups serverId hostgroupId }, acc.2)
      | none, some hostId => ({ acc.1 with hosts := insertId acc.1.hosts serverId hostId }, acc.2)
      | none, none => ({ acc.1 with servers := acc.1.servers.insert serverId }, acc.2)

def convert (uninitialised : UInt64) (stringMap : StringMap) (errors : Errors) :
    FilterSets × Errors :=
  stringMap.entries.foldl (fun acc entry => convertEntry uninitialised acc entry.2)
    (⟨∅, ∅, ∅⟩, errors)

/-- The filters that are not empty. -/
def setFilters (selected excluded : FilterSets) (option : HostResourceQueryOption) :
    HostResourceQueryOption :=
  { option with
    selectedServerIdSet :=
      if selected.servers.isEmpty then option.selectedServerIdSet else selected.servers
    excludedServerIdSet :=
      if excluded.servers.isEmpty then option.excludedServerIdSet else excluded.servers
    selectedServerHostgroupSetMap :=
      if selected.hostgroups.isEmpty then option.selectedServerHostgroupSetMap
      else selected.hostgroups
    excludedServerHostgroupSetMap :=
      if excluded.hostgroups.isEmpty then option.excludedServerHostgroupSetMap
      else excluded.hostgroups
    selectedServerHostSetMap :=
      if selected.hosts.isEmpty then option.selectedServerHostSetMap else selected.hosts
    excludedServerHostSetMap :=
      if excluded.hosts.isEmpty then option.excludedServerHostSetMap else excluded.hosts }

/-- The first error, or HTERR_OK, and the option afterwards. -/
def parseHostsFilter (uninitialised : UInt64) (option : HostResourceQueryOption) (query : Query) :
    Option String × HostResourceQueryOption :=
  let data := parse query
  let (selected, errors) := convert uninitialised data.selected data.errors
  let (excluded, errors) := convert uninitialised data.excluded errors
  match errors with
  | error :: _ => (some error, option)
  | [] => (none, setFilters selected excluded option)

/-! ## The name of a host group -/

/-- (DBTablesHost.cc:948-972) A statement that the database does not take throws. -/
def getServerHostGrpSetMap (t : HostgroupTables) (option : HostgroupsQueryOption) :
    Except HatoholException ServerHostGrpSetMap := do
  let condition ← option.getCondition
  if !Sql.isReadable condition then
    .error ⟨"Failed to query: SELECT server_id,id_in_server FROM hostgroup_list"⟩
  else
    pure ((t.hostgroupList.rows.filter fun hostgroup => Sql.selects condition hostgroup.value).foldl
      (fun serverHostGrpSetMap hostgroup =>
        insertId serverHostGrpSetMap hostgroup.serverId hostgroup.idInServer) ∅)

/-- (RestResourceUtils.cc:455-473) -/
def parseHostgroupNameParameter (t : HostgroupTables) (option : HostResourceQueryOption)
    (targetHostgroupName : Option CString) : Except HatoholException HostResourceQueryOption :=
  match targetHostgroupName with
  | none => .ok option
  | some hostgroupName =>
      if hostgroupName = emptyText then .ok option
      else do
        let serverHostGrpSetMap ← getServerHostGrpSetMap t
          ⟨.new synapseHostgroupsQueryOption option.context, rfl, hostgroupName⟩
        pure { option with selectedServerHostgroupSetMap := serverHostGrpSetMap }

end RestResourceUtils

end Hatohol
