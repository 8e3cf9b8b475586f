import ByteInspector.Report

/-! # Sessions

A session keeps bytes, a rendering, a policy and a format between steps. The rendering stays as it
was made, whatever becomes of the bytes. A step that fails changes nothing.
-/
namespace ByteInspector

structure Session where
  buffer : Bytes := []
  rendering : Option Rendering := none
  policy : Policy := .ignore
  format : ReportFormat := .text
  deriving DecidableEq, Repr

namespace Session

inductive Step where
  | decode (text : String)
  | load (bytes : Bytes)
  | policy (name : String)
  | format (name : String)
  | render
  | report
  | contains (needle : Bytes)
  | reencode
  | textToBytes
  | rawToBytes
  deriving DecidableEq, Repr

inductive Answer where
  | loaded (raw : String) (length : Nat)
  | hexFault (fault : Hex.Fault)
  | requestFault (fault : RequestFault)
  | policy (policy : Policy)
  | format (format : ReportFormat)
  | rendered (rendering : Rendering)
  | report (output : String)
  | noRendering
  | contains (found : Bool)
  | reencoded (hex : String) (same : Bool)
  | textBytes (length : Nat) (same : Bool)
  deriving DecidableEq, Repr

def Answer.ofLoaded (bs : Bytes) : Answer := .loaded (Literal.byteString bs) bs.length

def spells (hex : String) (bs : Bytes) : Bool :=
  match Hex.decode hex with
  | .ok decoded => decoded == bs
  | .error _ => false

def step (s : Session) : Step → Answer × Session
  | .decode text =>
    match Hex.decode text with
    | .ok bs => (.ofLoaded bs, { s with buffer := bs })
    | .error fault => (.hexFault fault, s)
  | .load bs => (.ofLoaded bs, { s with buffer := bs })
  | .policy name =>
    match Policy.parse name with
    | .ok policy => (.policy policy, { s with policy := policy })
    | .error fault => (.requestFault fault, s)
  | .format name => (.format (.ofName name), { s with format := .ofName name })
  | .render =>
    let r := Rendering.ofBytes s.policy s.buffer
    (.rendered r, { s with rendering := some r })
  | .report =>
    match s.rendering with
    | some r =>
      match s.format.write s.buffer r with
      | .ok output => (.report output, s)
      | .error fault => (.requestFault fault, s)
    | none => (.noRendering, s)
  | .contains needle => (.contains (needle.occursIn s.buffer), s)
  | .reencode => (.reencoded (Hex.encode s.buffer) (spells (Hex.encode s.buffer) s.buffer), s)
  | .textToBytes =>
    match s.rendering with
    | some r =>
      let bs := Utf8.encode r.text
      (.textBytes bs.length (bs == s.buffer), { s with buffer := bs })
    | none => (.noRendering, s)
  | .rawToBytes =>
    let bs := Utf8.encode (Literal.byteString s.buffer)
    (.ofLoaded bs, { s with buffer := bs })

def run (s : Session) : List Step → List Answer × Session
  | [] => ([], s)
  | first :: rest =>
    let answered := s.step first
    let later := answered.2.run rest
    (answered.1 :: later.1, later.2)

@[simp] theorem run_nil (s : Session) : s.run [] = ([], s) := rfl

theorem length_run (s : Session) (steps : List Step) : (s.run steps).1.length = steps.length := by
  induction steps generalizing s with
  | nil => rfl
  | cons first rest ih => simp [run, ih]

theorem run_append (s : Session) (xs ys : List Step) :
    s.run (xs ++ ys) =
      ((s.run xs).1 ++ ((s.run xs).2.run ys).1, ((s.run xs).2.run ys).2) := by
  induction xs generalizing s with
  | nil => rfl
  | cons first rest ih => simp [run, ih]

end Session

end ByteInspector
