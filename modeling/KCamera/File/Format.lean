import KCamera.FrameList.Cursor

/-!
# Record files

`save` in `streamer.c` writes each frame of a list as a record: a magic word,
a size, and that many bytes of the frame's block. `streamer_load` reads records
into a list until a read of the magic word comes up short. Files, `malloc` and
the memory reserve answer from outside; `streamer_load` ignores what
`flistAppend` returns.
-/

namespace KCamera

/-- `MAGIC`. -/
def magic : Nat := 0xc1ab511c

/-- The exceptions `save` raises. -/
inductive SaveError where
  | open
  | writing
deriving DecidableEq, Repr

def SaveError.message : SaveError → String
  | .open => "unable to open file"
  | .writing => "error while writing file"

/-- The three `fwrite` calls for one frame. -/
def saveFrame (frame : KcFrame) : List UInt8 :=
  let size := kcSizeofFrame frame
  leBytes 4 magic ++ leBytes 4 size.toNat ++ frame.read size.toNat

/-- What `save` leaves: the list, the file's bytes and the number of bytes
written or an exception. -/
structure Saved where
  list : FrameList
  bytes : List UInt8
  result : Except SaveError UInt32

/-- The loop of `save`. `short turn` is how much of that turn's record reaches
the file when writing it fails. `none` when the cursor dangles. -/
def saveLoop (short : Nat → Option Nat) :
    Nat → Nat → FrameList → List UInt8 → UInt32 → Option Saved
  | 0, _, _, _, _ => none
  | fuel + 1, turn, list, bytes, len =>
      (flistNext list).bind fun
        | (list, none) => some ⟨list, bytes, .ok len⟩
        | (list, some frame) =>
            match short turn with
            | some count => some ⟨list, bytes ++ (saveFrame frame).take count, .error .writing⟩
            | none =>
                saveLoop short fuel (turn + 1) list (bytes ++ saveFrame frame)
                  (len + UInt32.ofNat (saveFrame frame).length)

/-- `save`. Every turn moves the cursor on, so the list's length bounds the
turns. -/
def save (list : FrameList) (opens : Bool) (short : Nat → Option Nat) : Option Saved :=
  if opens then saveLoop short (list.len.toNat + 1) 0 (flistSeek list 0).1 [] 0
  else some ⟨list, [], .error .open⟩

/-- The exceptions `streamer_load` raises. -/
inductive LoadError where
  | open
  | memReserve
  | magicMissing
  | sizeMissing
  | outOfMemory
  | frameTruncated
deriving DecidableEq, Repr

def LoadError.message : LoadError → String
  | .open => "unable to open file"
  | .memReserve => "memory reserve has been exceeded"
  | .magicMissing => "error parsing file, magic number is missing"
  | .sizeMissing => "error parsing file"
  | .outOfMemory => "out of memory"
  | .frameTruncated => "error parsing frame"

/-- What one turn of `streamer_load` is told: `kcMemReserveExceeded()` and the
blocks that `malloc` returns for the frame and for its node. -/
structure LoadTurn where
  memReserveExceeded : Bool
  block : Option Nat
  node : Option Addr

/-- What `streamer_load` leaves: the list, an exception or success, and the
frame blocks that it allocated and neither freed nor put into the list. -/
structure Loaded where
  list : FrameList
  error : Option LoadError
  lost : List KcFrame

/-- The loop of `streamer_load` on the unread bytes. `fread` of `n` bytes is
`take n`, and it meets the end of the file exactly when it comes up short. -/
def loadLoop (turns : Nat → LoadTurn) (turn : Nat) (list : FrameList) (bytes : List UInt8) :
    Loaded :=
  if (turns turn).memReserveExceeded then ⟨list, some .memReserve, []⟩
  else if (bytes.take 4).length ≠ 4 ∨ leNat (bytes.take 4) ≠ magic then
    if (bytes.take 4).length < 4 then ⟨list, none, []⟩ -- feof
    else ⟨list, some .magicMissing, []⟩
  else
    let sized := bytes.drop 4
    if (sized.take 4).length ≠ 4 then ⟨list, some .sizeMissing, []⟩
    else
      match (turns turn).block with
      | none => ⟨list, some .outOfMemory, []⟩
      | some block =>
          let size := leNat (sized.take 4)
          let frame : KcFrame := ⟨block, (sized.drop 4).take size⟩
          if frame.mem.length ≠ size then ⟨list, some .frameTruncated, [frame]⟩
          else
            let appended := flistAppend list frame (turns turn).node
            let loaded := loadLoop turns (turn + 1) appended.list ((sized.drop 4).drop size)
            if appended.status = -2 then { loaded with lost := frame :: loaded.lost }
            else loaded
termination_by bytes.length
decreasing_by
  simp only [List.length_take, List.length_drop] at *
  omega

/-- `streamer_load` into `list`; `file` is `none` when `fopen` fails. -/
def streamerLoad (list : FrameList) (file : Option (List UInt8)) (turns : Nat → LoadTurn) :
    Loaded :=
  match file with
  | none => ⟨list, some .open, []⟩
  | some bytes => loadLoop turns 0 list bytes

end KCamera
