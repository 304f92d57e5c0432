import DocSite.Exchange.Names
import DocSite.Interface.Doc

/-!
# The data of documentation comments
-/

namespace DocSite.Exchange

/-! ## Running text -/

mutual

def Inline.toDatum : Inline → Datum
  | .text s => .variant "text" (.text s)
  | .code s => .variant "code" (.text s)
  | .emphasis xs => .variant "emphasis" (.list (Inline.toData xs))
  | .bold xs => .variant "bold" (.list (Inline.toData xs))
  | .link t xs => .variant "link" (.list [.text t, .list (Inline.toData xs)])
  | .reference t xs =>
    .variant "reference" (.list [Exchanged.toDatum t, .list (Inline.toData xs)])

def Inline.toData : List Inline → List Datum
  | [] => []
  | x :: xs => Inline.toDatum x :: Inline.toData xs

end

mutual

def Inline.ofDatum? : Datum → Option Inline
  | .variant "text" (.text s) => some (.text s)
  | .variant "code" (.text s) => some (.code s)
  | .variant "emphasis" (.list ds) => (Inline.ofData? ds).map .emphasis
  | .variant "bold" (.list ds) => (Inline.ofData? ds).map .bold
  | .variant "link" (.list [.text t, .list ds]) => (Inline.ofData? ds).map (.link t)
  | .variant "reference" (.list [t, .list ds]) => do
    return .reference (← Exchanged.ofDatum? t) (← Inline.ofData? ds)
  | _ => none

def Inline.ofData? : List Datum → Option (List Inline)
  | [] => some []
  | d :: ds => do return (← Inline.ofDatum? d) :: (← Inline.ofData? ds)

end

instance : Exchanged Inline := ⟨.ref .inline, Inline.toDatum, Inline.ofDatum?⟩

instance : Exchanged Tag where
  slot := Format.tag
  toDatum := fun
    | .open => .variant "open" .null
    | .closed => .variant "closed" .null
    | .inline => .variant "inline" .null
    | .author s => .variant "author" (.text s)
    | .deprecated xs => .variant "deprecated" (toDatum xs)
    | .since s => .variant "since" (.text s)
    | .version s => .variant "version" (.text s)
    | .return xs => .variant "return" (toDatum xs)
  ofDatum? := fun
    | .variant "open" _ => some .open
    | .variant "closed" _ => some .closed
    | .variant "inline" _ => some .inline
    | .variant "author" (.text s) => some (.author s)
    | .variant "deprecated" d => (ofDatum? d).map .deprecated
    | .variant "since" (.text s) => some (.since s)
    | .variant "version" (.text s) => some (.version s)
    | .variant "return" d => (ofDatum? d).map .return
    | _ => none

/-! ## Blocks -/

mutual

def Block.toDatum : Block → Datum
  | .paragraph xs => .variant "paragraph" (Exchanged.toDatum xs)
  | .heading level label text =>
    .variant "heading"
      (.list [.number level.toNat, Exchanged.toDatum label, Exchanged.toDatum text])
  | .codeBlock s => .variant "code_block" (.text s)
  | .verbatim s => .variant "verbatim" (.text s)
  | .list ordered items =>
    .variant "list" (.list [.flag ordered, .list (Block.itemsToData items)])
  | .tag t => .variant "tag" (Exchanged.toDatum t)

def Block.toData : List Block → List Datum
  | [] => []
  | b :: bs => Block.toDatum b :: Block.toData bs

def Block.itemsToData : List (List Block) → List Datum
  | [] => []
  | bs :: items => .list (Block.toData bs) :: Block.itemsToData items

end

mutual

def Block.ofDatum? : Datum → Option Block
  | .variant "paragraph" d => (Exchanged.ofDatum? d).map .paragraph
  | .variant "heading" (.list [.number n, label, text]) => do
    return .heading (UInt8.ofNat n) (← Exchanged.ofDatum? label) (← Exchanged.ofDatum? text)
  | .variant "code_block" (.text s) => some (.codeBlock s)
  | .variant "verbatim" (.text s) => some (.verbatim s)
  | .variant "list" (.list [.flag ordered, .list ds]) =>
    (Block.itemsOfData? ds).map (.list ordered)
  | .variant "tag" d => (Exchanged.ofDatum? d).map .tag
  | _ => none

def Block.ofData? : List Datum → Option (List Block)
  | [] => some []
  | d :: ds => do return (← Block.ofDatum? d) :: (← Block.ofData? ds)

def Block.itemsOfData? : List Datum → Option (List (List Block))
  | [] => some []
  | .list bs :: ds => do return (← Block.ofData? bs) :: (← Block.itemsOfData? ds)
  | _ :: _ => none

end

instance : Exchanged Block := ⟨.ref .block, Block.toDatum, Block.ofDatum?⟩

instance : Exchanged Comment where
  slot := Format.comment
  toDatum := fun
    | .docs ds => .variant "docs" (toDatum ds)
    | .stop => .variant "stop" .null
  ofDatum? := fun
    | .variant "docs" d => (ofDatum? d).map .docs
    | .variant "stop" _ => some .stop
    | _ => none

end DocSite.Exchange
