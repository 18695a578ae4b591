import SqlBuilder.Error
import SqlBuilder.Text.Split
import SqlBuilder.Uri.Percent

/-!
Hosts in square brackets, which have to be addresses of version 6 or of a version to come.
-/

namespace SqlBuilder.Uri

/-- A number from 0 to 255 without leading zeros. -/
def isByteNumber (part : List Char) : Bool :=
  part.all Char.isDigit && !part.isEmpty && part.length ≤ 3 &&
    (part.length == 1 || part.head? != some '0') &&
    part.foldl (fun n c => 10 * n + (c.toNat - '0'.toNat)) 0 ≤ 255

def isVersion4 (cs : List Char) : Bool :=
  let parts := Text.splitAt '.' cs
  parts.length == 4 && parts.all isByteNumber

def isHexGroup (group : List Char) : Bool :=
  !group.isEmpty && group.length ≤ 4 && group.all fun c => (hexValue? c).isSome

/-- The groups of an address, a trailing address of version 4 standing for two of them. -/
def hexGroups? (cs : List Char) : Option (List (List Char)) :=
  let parts := Text.splitAt ':' cs
  if parts.length < 3 then none
  else
    match parts.getLast? with
    | some last =>
      if last.contains '.' then
        if isVersion4 last then some (parts.dropLast ++ [['0'], ['0']]) else none
      else some parts
    | none => none

/-- The groups on both sides of the gap; nothing if there is more than one gap. A gap at an end shows
as two empty groups. -/
def aroundGap? (groups : List (List Char)) : Option (List (List Char) × Option (List (List Char))) :=
  let inner := (groups.drop 1).dropLast
  match inner.findIdx? List.isEmpty with
  | none => some (groups, none)
  | some i =>
    if 1 < inner.countP List.isEmpty then none
    else some (groups.take (i + 1), some (groups.drop (i + 2)))

/-- A side that consists of one empty group is empty; otherwise no group may be. -/
def sideGroups? (side : List (List Char)) : Option (List (List Char)) :=
  if side = [[]] then some []
  else if side.all isHexGroup then some side
  else none

def areGroups (groups : List (List Char)) : Bool :=
  match aroundGap? groups with
  | none => false
  | some (all, none) => all.length == 8 && all.all isHexGroup
  | some (before, some after) =>
    match sideGroups? before, sideGroups? after with
    | some before, some after => before.length + after.length < 8
    | _, _ => false

/-- The zone after a percent sign may be anything but empty or another percent sign. -/
def isZone : Option (List Char) → Bool
  | none => true
  | some zone => !zone.isEmpty && !zone.contains '%'

def isVersion6 (cs : List Char) : Bool :=
  let (address, zone) := Text.cutAt '%' cs
  isZone zone && ((hexGroups? address).map areGroups).getD false

/-- A version to come: the letter v, hexadecimal digits, a dot, and something. -/
def isFuture (cs : List Char) : Bool :=
  match Text.cutAt '.' (cs.drop 1) with
  | (version, some rest) =>
    !version.isEmpty && version.all (fun c => (hexValue? c).isSome) && !rest.isEmpty
  | (_, none) => false

def checkBracketed (host : List Char) : Except Error Unit :=
  if host.head? = some 'v' then
    if isFuture host then .ok () else .error .addressFuture
  else if isVersion4 host then .error .addressNotVersion6
  else if isVersion6 host then .ok ()
  else .error (.addressUnknown (String.ofList host))

end SqlBuilder.Uri
