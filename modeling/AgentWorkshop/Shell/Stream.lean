import AgentWorkshop.Shell.Place

/-!
# Streams

Opening files for the descriptors of a process, and reading from them.
-/

namespace AgentWorkshop

namespace Shell

namespace Exec

/-! ## Opening -/

/-- The descriptor that a path names. -/
def descriptorAt? (path : Text) : Option Nat :=
  if path = text "/dev/stdin" then some 0
  else if path = text "/dev/stdout" then some 1
  else if path = text "/dev/stderr" then some 2
  else
    match (text "/dev/fd/").isPrefixOf? path with
    | some [d] => if d.isAsciiDigit then some (d.val - 0x30) else none
    | _ => none

/-- Opens a file. -/
def openFile (opening : Opening) (path : Text) : Exec (Except Errno Nat) := do
  if let some d := descriptorAt? path then
    return match (← process).streams.lookup d with
      | some id => .ok id
      | none => .error .noEntry
  let device (address : Address) : Option Channel :=
    let found : Option Device :=
      if address = FileTree.nullDevice then some .nothing
      else if address = [text "dev", text "full"] then some .full
      else if address.head? = some (text "dev") && devices.contains address then some .zeros
      else none
    found.map fun d => .device d (opening = .read || opening = .update) (opening ≠ .read)
  let registered (c : Channel) : Exec (Except Errno Nat) := do
    return .ok (← register c)
  if opening = .read then
    match ← resolve path with
    | .error e => return .error e
    | .ok (.free _ _) => return .error .noEntry
    | .ok (.taken address .directory) => registered (.folder address)
    | .ok (.taken address _) =>
      if address = [text "dev", text "tty"] then return .error .noDevice
      registered ((device address).getD (.file address 0 true false false))
  else
    match ← fileToWrite path with
    | .error e => return .error e
    | .ok address =>
      if address = [text "dev", text "tty"] then return .error .noDevice
      match device address with
      | some c => registered c
      | none =>
        if opening = .write || opening = .overwrite then putFile address []
        registered (.file address 0 (opening = .update) true (opening = .append))

/-- Lets a descriptor stand for something. -/
def attach (descriptor id : Nat) : Exec Unit :=
  update fun p => { p with
    streams := (descriptor, id) :: p.streams.filter fun s => s.1 ≠ descriptor }

/-- Closes a descriptor. -/
def close (descriptor : Nat) : Exec Unit :=
  update fun p => { p with streams := p.streams.filter fun s => s.1 ≠ descriptor }

/-! ## Reading -/

/-- The pieces that are there at a time, and the others. -/
def present (time : Nat) : List (Nat × Bytes) → Bytes × List (Nat × Bytes)
  | [] => ([], [])
  | (t, bs) :: rest =>
    if t ≤ time then
      let (more, others) := present time rest
      (bs ++ more, others)
    else ([], (t, bs) :: rest)

/-- Reads what is there, at most so many bytes. At the end there are none. -/
def read (descriptor limit : Nat) : Exec (Except Errno Bytes) := do
  match ← channel? descriptor with
  | none => return .error .badDescriptor
  | some (id, c) =>
    let become (c : Channel) : Exec Unit :=
      modify fun m => { m with channels := m.channels.setIfInBounds id c }
    match c with
    | .device d reads _ =>
      return if !reads then .error .badDescriptor
        else .ok (if d = .nothing then [] else List.replicate limit 0)
    | .collected _ => return .error .badDescriptor
    | .folder _ => return .error .isDirectory
    | .detached contents offset =>
      let bs := (contents.drop offset).take limit
      become (.detached contents (offset + bs.length))
      return .ok bs
    | .file address offset reads writes appends =>
      if !reads then return .error .badDescriptor
      let bs := (((← get).contentsAt address).drop offset).take limit
      become (.file address (offset + bs.length) reads writes appends)
      return .ok bs
    | .supply [] ends isEndless =>
      waitUntil ends
      if isEndless then throw .endless
      return .ok []
    | .supply ((t, bs) :: rest) ends isEndless =>
      waitUntil t
      let (more, others) := present (← process).clock rest
      let there := bs ++ more
      let left := there.drop limit
      become (.supply (if left.isEmpty then others else (t, left) :: others) ends isEndless)
      return .ok (there.take limit)

/-- Reads until the end. -/
def readAll (descriptor : Nat) : Exec (Except Errno Bytes) := do
  match ← channel? descriptor with
  | some (id, .supply pieces ends isEndless) =>
    modify fun m => { m with
      channels := m.channels.setIfInBounds id (.supply [] ends isEndless) }
    waitUntil ends
    if isEndless then throw .endless
    return .ok (pieces.flatMap (·.2))
  | some (_, .device .zeros true _) | some (_, .device .full true _) => throw .endless
  | some (_, .file address _ _ _ _) => read descriptor ((← get).contentsAt address).length
  | some (_, .detached contents _) => read descriptor contents.length
  | _ => read descriptor 1

/-- The pieces up to the end of a line, and those after it. The answer tells, too,
when the line was there, if it is whole. -/
def lineOf : List (Nat × Bytes) → Bytes × Option Nat × List (Nat × Bytes)
  | [] => ([], none, [])
  | (time, bs) :: rest =>
    let isLine (b : Byte) : Bool := b ≠ 10
    match bs.dropWhile isLine with
    | _ :: after =>
      (bs.takeWhile isLine, some time, if after.isEmpty then rest else (time, after) :: rest)
    | [] =>
      let (more, found, others) := lineOf rest
      (bs ++ more, found, others)

/-- Reads a line without its end. The answer tells, too, whether it is whole. -/
def readLine (descriptor : Nat) : Exec (Except Errno (Bytes × Bool)) := do
  let isLine (b : Byte) : Bool := b ≠ 10
  match ← channel? descriptor with
  | some (id, .supply pieces ends isEndless) =>
    let (line, found, others) := lineOf pieces
    modify fun m => { m with
      channels := m.channels.setIfInBounds id (.supply others ends isEndless) }
    waitUntil (found.getD ends)
    if found.isNone && isEndless then throw .endless
    return .ok (line, found.isSome)
  | some (_, .device .zeros true _) | some (_, .device .full true _) => throw .endless
  | some (id, .file address offset reads writes appends) =>
    if !reads then return .error .badDescriptor
    let there := ((← get).contentsAt address).drop offset
    let line := there.takeWhile isLine
    let isWhole : Bool := line.length < there.length
    let next := offset + line.length + if isWhole then 1 else 0
    modify fun m => { m with
      channels := m.channels.setIfInBounds id (.file address next reads writes appends) }
    return .ok (line, isWhole)
  | some (id, .detached contents offset) =>
    let there := contents.drop offset
    let line := there.takeWhile isLine
    let isWhole : Bool := line.length < there.length
    modify fun m => { m with
      channels := m.channels.setIfInBounds id
        (.detached contents (offset + line.length + if isWhole then 1 else 0)) }
    return .ok (line, isWhole)
  | _ => return (← read descriptor 1).map (·, false)

/-- Gives back bytes at the end of what was read, if the stream can go back. -/
def unread (descriptor count : Nat) : Exec Unit := do
  match ← channel? descriptor with
  | some (id, .file address offset reads writes appends) =>
    modify fun m => { m with
      channels := m.channels.setIfInBounds id
        (.file address (offset - count) reads writes appends) }
  | _ => pure ()

/-! ## Collecting -/

/-- Begins to collect; the number of the collection and what stands for it. -/
def collection : Exec (Nat × Nat) := do
  let n := (← get).collections.size
  modify fun m => { m with collections := m.collections.push [] }
  return (n, ← register (.collected n))

/-- What was collected, in the order of time. -/
def collected (n : Nat) : Exec (List (Nat × Bytes)) := do
  let pieces := ((← get).collections[n]?.getD []).reverse
  return pieces.mergeSort fun a b => a.1 ≤ b.1

end Exec

end Shell

end AgentWorkshop
