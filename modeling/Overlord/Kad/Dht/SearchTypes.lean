import Overlord.Kad.Proto.Constants
import Overlord.Kad.Proto.Tag
import Overlord.Net.Addr

/-!
# What a search returns

`types.rs` of the DHT crate: the tags of a search result are read into a file or a source.  Every
reader is one pass over the tags in which a later tag overwrites an earlier one.
-/

set_option autoImplicit false

namespace Overlord.Kad

/-! ## Files -/

/-- A file entry found by keyword search. -/
structure SearchResult where
  hash : Ed2kHash
  names : List String
  size : Option UInt64
  sourceCount : Option UInt32
  tags : List Tag
deriving DecidableEq, Repr

/-- What `SearchResult::from_tags` has gathered so far. -/
structure SearchResultParts where
  names : List String
  size : Option UInt64
  sizeLow : Option UInt32
  sizeHigh : Option UInt32
  sourceCount : Option UInt32
deriving DecidableEq, Repr

namespace SearchResultParts

/-- A `FILESIZE` tag. -/
def readSize (parts : SearchResultParts) : TagValue → SearchResultParts
  | .uint v | .u64 v => { parts with size := some v }
  | .u32 v => { parts with sizeLow := some v }
  | .u16 v => { parts with sizeLow := some v.toUInt32 }
  | .u8 v => { parts with sizeLow := some v.toUInt32 }
  | _ => parts

/-- A tag whose value is cut to 32 bits; `U64` is not among the types that are read. -/
def wordOf : TagValue → Option UInt32
  | .uint v => some v.toUInt32
  | .u32 v => some v
  | .u16 v => some v.toUInt32
  | .u8 v => some v.toUInt32
  | _ => none

/-- One tag. -/
def read (parts : SearchResultParts) (tag : Tag) : SearchResultParts :=
  match tag.name with
  | .long _ => parts
  | .short n =>
    if n = tagName.FILENAME then
      match tag.value with
      | .string s => { parts with names := parts.names ++ [s] }
      | _ => parts
    else if n = tagName.FILESIZE then parts.readSize tag.value
    else if n = tagName.FILESIZE_HI then
      { parts with sizeHigh := (wordOf tag.value).or parts.sizeHigh }
    else if n = tagName.SOURCES then
      { parts with sourceCount := (wordOf tag.value).or parts.sourceCount }
    else parts

/-- The size: a whole one, or one that is put together from its halves. -/
def fullSize (parts : SearchResultParts) : Option UInt64 :=
  parts.size.or (parts.sizeLow.map fun low =>
    ((parts.sizeHigh.getD 0).toUInt64 <<< 32) ||| low.toUInt64)

end SearchResultParts

/-- `SearchResult::from_tags`. -/
def SearchResult.fromTags (hash : Ed2kHash) (tags : List Tag) : SearchResult :=
  let parts := tags.foldl SearchResultParts.read ⟨[], none, none, none, none⟩
  ⟨hash, parts.names, parts.fullSize, parts.sourceCount, tags⟩

/-! ## Sources -/

/-- A peer known to have a specific file. -/
structure SourceResult where
  fileHash : Ed2kHash
  sourceId : Ed2kHash
  ip : Ipv4Addr
  tcpPort : UInt16
  udpPort : UInt16
  obfuscationOptions : Option UInt8
deriving DecidableEq, Repr

/-- What `SourceResult::from_tags` has gathered so far. -/
structure SourceResultParts where
  ip : Option Ipv4Addr
  tcpPort : UInt16
  udpPort : UInt16
  obfuscationOptions : Option UInt8
deriving DecidableEq, Repr

namespace SourceResultParts

/-- The value of a `SOURCEIP` tag. -/
def ipOf : TagValue → Option Ipv4Addr
  | .uint v => if v.toNat < 2 ^ 32 then some (.ofBeU32 v.toUInt32) else none
  | .u32 v => some (.ofBeU32 v)
  | _ => none

/-- The value of a port tag, cut to 16 bits. -/
def portOf : TagValue → Option UInt16
  | .uint v => some v.toUInt16
  | .u16 v => some v
  | .u32 v => some v.toUInt16
  | .u8 v => some v.toUInt16
  | _ => none

/-- The value of an `ENCRYPTION` tag. -/
def optionsOf : TagValue → Option UInt8
  | .uint v => if v.toNat < 2 ^ 8 then some v.toUInt8 else none
  | .u32 v => if v.toNat < 2 ^ 8 then some v.toUInt8 else none
  | .u16 v => if v.toNat < 2 ^ 8 then some v.toUInt8 else none
  | .u8 v => some v
  | _ => none

/-- One tag. -/
def read (parts : SourceResultParts) (tag : Tag) : SourceResultParts :=
  match tag.name with
  | .long _ => parts
  | .short n =>
    if n = tagName.SOURCEIP then { parts with ip := (ipOf tag.value).or parts.ip }
    else if n = tagName.SOURCEPORT then
      { parts with tcpPort := (portOf tag.value).getD parts.tcpPort }
    else if n = tagName.SOURCEUPORT then
      { parts with udpPort := (portOf tag.value).getD parts.udpPort }
    else if n = tagName.ENCRYPTION then
      { parts with obfuscationOptions := (optionsOf tag.value).or parts.obfuscationOptions }
    else parts

end SourceResultParts

/-- `SourceResult::from_tags`. -/
def SourceResult.fromTags (fileHash sourceId : Ed2kHash) (tags : List Tag) : Option SourceResult :=
  let parts := tags.foldl SourceResultParts.read ⟨none, 0, 0, none⟩
  match parts.ip with
  | none => none
  | some ip =>
    if parts.tcpPort = 0 then none
    else
      some ⟨fileHash, sourceId, ip, parts.tcpPort,
        if parts.udpPort = 0 then parts.tcpPort else parts.udpPort, parts.obfuscationOptions⟩

end Overlord.Kad
