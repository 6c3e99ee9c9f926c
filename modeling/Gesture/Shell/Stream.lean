import Gesture.Shell.Machine
import Gesture.Text.Digit

namespace Gesture.Shell.Run

def addHandle (h : Handle) : Run Nat :=
  modifyGet fun m => (m.handles.size, { m with handles := m.handles.push h })

def handle? (descriptor : Nat) : Run (Option (Nat × Handle)) := do
  let m ← get
  return do
    let number ← m.process.descriptors.lookup descriptor
    let h ← m.handles[number]?
    return (number, h)

def setHandle (number : Nat) (h : Handle) : Run Unit :=
  modify fun m => { m with handles := m.handles.setIfInBounds number h }

def modifyChannel (number : Nat) (f : Channel → Channel) : Run Unit :=
  modify fun m => { m with channels := m.channels.modify number f }

def channelRoom : Nat := 200000

def roomFor (bytes : Bytes) : Nat :=
  1 + bytes.length / 64

def newChannel (room : Nat) : Run (Nat × Nat × Nat) := do
  let number := (← get).channels.size
  modify fun m => { m with channels := m.channels.push { room } }
  let reader ← addHandle { target := .readEnd number, writable := false }
  let writer ← addHandle { target := .writeEnd number, readable := false }
  return (number, reader, writer)

def release (lineage : List Nat) (descriptors : List (Nat × Nat)) (time : Option Nat) : Run Unit :=
  modify fun m =>
    { m with
      channels := descriptors.foldl
        (fun channels d =>
          match (m.handles[d.2]?.map (·.target) : Option Target) with
          | some (.writeEnd c) =>
            channels.modify c fun c => { c with holds := (lineage, time) :: c.holds }
          | _ => channels)
        m.channels }

def overwritten (content : Bytes) (offset : Nat) (bytes : Bytes) : Bytes :=
  let before := content.take offset
  before ++ List.replicate (offset - before.length) '\x00' ++ bytes ++
    content.drop (offset + bytes.length)

def contentOf (t : Tree) (number : Nat) : Bytes :=
  match (t.stored? number).map Item.node with
  | some (.file content) => content
  | _ => []

def setContent (number : Nat) (content : Bytes) : Run Unit :=
  modify fun m =>
    { m with tree := m.tree.change number fun item =>
        { item with node := .file content, time := m.process.now } }

def maskedMode (mode : Nat) : Run Nat := do
  return mode &&& (0o7777 ^^^ (← process).mask)

def make (place : Place) (node : Node) (mode : Nat) : Run Unit := do
  let mode ← maskedMode mode
  modify fun m => { m with tree := m.tree.put place ⟨node, mode, m.process.now⟩ }

def write (descriptor : Nat) (bytes : Bytes) : Run (Option FileError) := do
  match ← handle? descriptor with
  | none => return some .badDescriptor
  | some (number, h) =>
    if !h.writable then return some .badDescriptor
    match h.target with
    | .device .full => return if bytes.isEmpty then none else some .noSpace
    | .device _ => return none
    | .readEnd _ => return some .badDescriptor
    | .directory _ => return some .badDescriptor
    | .writeEnd channel =>
      if bytes.isEmpty then return none
      let p ← process
      match (← get).channels[channel]? with
      | none => return some .badDescriptor
      | some c =>
        if c.room = 0 then
          modifyChannel channel fun c => { c with cut := true }
          throw .full
        modifyChannel channel fun c =>
          { c with arrived := ⟨p.now, p.lineage, bytes⟩ :: c.arrived, room := c.room - roomFor bytes }
        return none
    | .file file =>
      let content := contentOf (← get).tree file
      let offset := if h.appending then content.length else h.offset
      if 8000000 < content.length then return some .noSpace
      let room := ((← boundOf 'f').map (· - offset)).getD bytes.length
      let fitting := bytes.take room
      setContent file (overwritten content offset fitting)
      setHandle number { h with offset := offset + fitting.length }
      if fitting.length < bytes.length then
        deliver Signal.tooLarge (← process).now
        return some .tooLarge
      return none

def writeForever {α : Type} (descriptor : Nat) : Run α := do
  match ← handle? descriptor with
  | some (_, { target := .writeEnd channel, .. }) =>
    modifyChannel channel fun c => { c with cut := true }
    throw .full
  | _ => throw .stalled

def receive (descriptor limit : Nat) : Run (Except FileError Bytes) := do
  match ← handle? descriptor with
  | none => return .error .badDescriptor
  | some (number, h) =>
    if !h.readable then return .error .badDescriptor
    match h.target with
    | .device .null => return .ok []
    | .device _ => return .ok (List.replicate (min limit 4096) '\x00')
    | .writeEnd _ => return .error .badDescriptor
    | .directory _ => return .error .isADirectory
    | .file file =>
      let bytes := ((contentOf (← get).tree file).drop h.offset).take limit
      setHandle number { h with offset := h.offset + bytes.length }
      return .ok bytes
    | .readEnd channel =>
      match (← get).channels[channel]? with
      | none => return .error .badDescriptor
      | some c =>
        let c := c.settle
        match c.ready with
        | w :: later =>
          waitUntil (some w.time)
          let rest := w.bytes.drop limit
          let ready := if rest.isEmpty then later else { w with bytes := rest } :: later
          modifyChannel channel fun _ => { c with ready }
          return .ok (w.bytes.take limit)
        | [] =>
          if c.cut then throw .full
          waitUntil c.closing
          return .ok []

/-- Gives back the last bytes that were read from a file, so that they are read again. What came
    through a channel is lost. -/
def giveBack (descriptor count : Nat) : Run Unit := do
  match ← handle? descriptor with
  | some (number, { target := .file file, offset, readable, writable, appending }) =>
    setHandle number
      { target := .file file, offset := offset - count, readable, writable, appending }
  | _ => pure ()

def isEndless (descriptor : Nat) : Run Bool := do
  match ← handle? descriptor with
  | some (_, { target := .device .null, .. }) => return false
  | some (_, { target := .device _, .. }) => return true
  | _ => return false

def receiveAll (descriptor : Nat) : Run (Except FileError Bytes) :=
  iterate .stalled
    (fun (before : List Bytes) => do
      if ← isEndless descriptor then throw .stalled
      match ← receive descriptor 1000000 with
      | .error e => return .inr (.error e)
      | .ok [] => return .inr (.ok before.reverse.flatten)
      | .ok bytes =>
        step
        return .inl (bytes :: before))
    100000 []

def isSpent (descriptor : Nat) : Run Bool := do
  match ← handle? descriptor with
  | some (_, { target := .readEnd channel, .. }) =>
    match (← get).channels[channel]? with
    | some c => return c.cut && c.settle.ready.isEmpty
    | none => return false
  | _ => return false

/-- Reads all there is, or the start of it if it has no end; which of the two is said as well. -/
def receiveKnown (descriptor : Nat) : Run (Except FileError (Bytes × Bool)) :=
  iterate .stalled
    (fun (before : List Bytes) => do
      let startIsKnown := !before.isEmpty && (← isEndless descriptor)
      if startIsKnown || (← isSpent descriptor) then
        return .inr (.ok (before.reverse.flatten, true))
      match ← receive descriptor 1000000 with
      | .error e => return .inr (.error e)
      | .ok [] => return .inr (.ok (before.reverse.flatten, false))
      | .ok bytes =>
        step
        return .inl (bytes :: before))
    100000 []

def receiveLine (descriptor : Nat) : Run (Except FileError (Bytes × Bool)) := do
  match ← handle? descriptor with
  | some (number, { target := .file file, offset, readable := true, writable, appending }) =>
    let rest := (contentOf (← get).tree file).drop offset
    let line := rest.takeWhile (· != '\n')
    let ended := line.length < rest.length
    let offset := offset + line.length + (if ended then 1 else 0)
    setHandle number { target := .file file, offset, writable, appending }
    return .ok (line, ended)
  | some (_, { target := .readEnd channel, readable := true, .. }) =>
    iterate .stalled
      (fun (before : List Bytes) => do
        match (← get).channels[channel]? with
        | none => return .inr (.error .badDescriptor)
        | some c =>
          let c := c.settle
          match c.ready with
          | [] =>
            if c.cut then throw .full
            waitUntil c.closing
            return .inr (.ok (before.reverse.flatten, false))
          | w :: later =>
            waitUntil (some w.time)
            let line := w.bytes.takeWhile (· != '\n')
            match w.bytes.drop line.length with
            | [] =>
              modifyChannel channel fun _ => { c with ready := later }
              return .inl (line :: before)
            | _ :: rest =>
              let ready := if rest.isEmpty then later else { w with bytes := rest } :: later
              modifyChannel channel fun _ => { c with ready }
              return .inr (.ok ((line :: before).reverse.flatten, true)))
      10000000 []
  | some (_, { target := .device .null, .. }) => return .ok ([], false)
  | some (_, { target := .device _, .. }) => throw .stalled
  | some (_, { target := .directory _, .. }) => return .error .isADirectory
  | _ => return .error .badDescriptor

def descriptorPath? (path : Bytes) : Option Nat :=
  match String.ofList path with
  | "/dev/stdin" => some 0
  | "/dev/stdout" => some 1
  | "/dev/stderr" => some 2
  | _ =>
    ["/dev/fd/", "/proc/self/fd/"].findSome? fun directory =>
      let digits := path.drop directory.length
      if directory.toList.isPrefixOf path && !digits.isEmpty && digits.all Char.isDigit then
        some (Text.decimalValue digits)
      else none

def openFile (opening : Opening) (path : Bytes) : Run (Except FileError Nat) := do
  let m ← get
  let p := m.process
  match descriptorPath? path with
  | some d =>
    match p.descriptors.lookup d with
    | some number => return .ok number
    | none => return .error .missing
  | none =>
    let writing := opening != .read
    let opened (file : Nat) : Run Nat :=
      addHandle
        { target := .file file
          readable := opening == .readWrite
          appending := opening == .append }
    match m.tree.target p.working path with
    | .error e => return .error e
    | .ok place =>
      let file := (m.tree.number? place).getD 0
      match m.tree.node? place with
      | some (.device .terminal) => return .error .noDevice
      | some (.device d) =>
        return .ok (← addHandle { target := .device d, readable := !writing, writable := writing })
      | some .directory =>
        if writing then return .error .isADirectory
        return .ok (← addHandle { target := .directory place, writable := false })
      | some (.file _) =>
        if !writing then
          return .ok (← addHandle { target := .file file, writable := false })
        if opening == .write && p.options.contains 'C' then return .error .alreadyThere
        if opening != .append && opening != .readWrite then setContent file []
        return .ok (← opened file)
      | some (.link _) => return .error .tooManyLinks
      | none =>
        if !writing then return .error .missing
        if path.getLast? == some '/' then return .error .isADirectory
        make place (.file []) 0o666
        return .ok (← opened (((← get).tree.number? place).getD 0))

end Gesture.Shell.Run
