import Ectobase.Dispatch.FailoverCalls

namespace Ectobase.Dispatch

open Shared

-- The NetworkFence objects of the storage-management cluster, what the API server and the
-- csi-addons controller do with them, and the fencer that drives them.

inductive FenceState where
  | fenced
  | unfenced
  deriving DecidableEq, Repr

def FenceState.text : FenceState -> String
  | .fenced => "Fenced"
  | .unfenced => "Unfenced"

structure NetworkFence where
  name : String
  resourceVersion : Nat
  owner : String
  cidr : String
  fenceState : FenceState
  result : String
  message : String
  finalizer : Bool
  terminating : Bool
  deriving DecidableEq, Repr

def fenceSucceededMsg : String := "fencing operation successful"

def unfenceSucceededMsg : String := "unfencing operation successful"

def FenceState.succeededMsg : FenceState -> String
  | .fenced => fenceSucceededMsg
  | .unfenced => unfenceSucceededMsg

def replaceChar (c : Char) : List Char :=
  if c = ':' then ['-'] else if c = '/' then ['-', '-'] else if c = '.' then ['-'] else [c]

variable (pool pfx : String) (w : FenceWorld) (object cur : NetworkFence)

def fenceName : String := "ectobase-" ++ String.ofList (pfx.toList.flatMap replaceChar)

structure Operation where
  resourceVersion : Nat
  state : FenceState
  succeeded : Bool
  deriving DecidableEq, Repr

structure FenceWorld where
  revision : Nat
  fences : Store NetworkFence.name
  blocklist : List String
  operations : String -> Option Operation

def FenceWorld.empty : FenceWorld where
  revision := 0
  fences := .empty
  blocklist := []
  operations := fun _ => none

inductive FenceCall where
  | get (name : String)
  | create (fence : NetworkFence)
  | update (fence : NetworkFence)
  | delete (fence : NetworkFence)

abbrev FenceReply : FenceCall -> Type
  | .get _ => Except ApiError NetworkFence
  | .create _ | .update _ | .delete _ => Except ApiError Unit

def storeFence (new : NetworkFence) : FenceWorld := if new = cur then w
  else
    { w with
      revision := w.revision + 1
      fences := w.fences.put { new with resourceVersion := w.revision + 1 } }

def createFence (fence : NetworkFence) : FenceWorld := { w with
  revision := w.revision + 1
  fences := w.fences.put { fence with resourceVersion := w.revision + 1 } }

def updateFence (w : FenceWorld) (sent cur : NetworkFence) : NetworkFence × FenceWorld :=
  (cur, storeFence w cur { cur with owner := sent.owner, cidr := sent.cidr, fenceState := sent.fenceState })

def deleteFence : NetworkFence × FenceWorld :=
  (cur, if cur.finalizer then storeFence w cur { cur with terminating := true }
    else { w with fences := w.fences.remove cur.name })

def Outcome.missing {α W : Type} (w : W) : Outcome -> Except ApiError α × W
  | .normal => (.error .notFound, w)
  | .refused message | .unanswered message => (.error (.failed message), w)

def serveFence : Serve FenceWorld Outcome FenceReply
  | w, .get name, o =>
    match w.fences.find name with
    | none => o.missing w
    | some fence => o.answer fence w w
  | w, .create fence, o =>
    match w.fences.find fence.name with
    | none => o.answer () w (createFence w fence)
    | some _ => (.error (.failed "already exists"), w)
  | w, .update fence, o =>
    let out := checked (w.fences.find fence.name) NetworkFence.resourceVersion
      fence.resourceVersion o w (updateFence w fence)
    (out.1.map fun _ => (), out.2)
  -- Delete sends no precondition: it takes what the name holds now.
  | w, .delete fence, o =>
    match w.fences.find fence.name with
    | none => o.missing w
    | some cur => o.answer () w (deleteFence w cur).2

inductive Execution where
  | succeeded
  | failed (effective : Bool)
  deriving DecidableEq, Repr

def Execution.effective : Execution -> Bool
  | .succeeded => true
  | .failed effective => effective

inductive CsiStep where
  | adopt (name : String)
  | execute (name : String) (how : Execution)
  | report (name : String) (failure : String)
  | finalize (name : String)
  deriving DecidableEq, Repr

def blocklistAfter (blocklist : List String) (cidr : String) : FenceState -> List String
  | .fenced => cidr :: blocklist
  | .unfenced => blocklist.filter (· ≠ cidr)

def executeFence (how : Execution) : FenceWorld := { w with
  blocklist := if how.effective then blocklistAfter w.blocklist cur.cidr cur.fenceState
    else w.blocklist
  operations := Function.update w.operations cur.name
    (some { resourceVersion := cur.resourceVersion, state := cur.fenceState,
            succeeded := decide (how = .succeeded) }) }

def reportFence (op : Operation) (failure : String) : FenceWorld :=
  let w := { w with operations := Function.update w.operations cur.name none }
  if cur.resourceVersion = op.resourceVersion then
    storeFence w cur (if op.succeeded then
        { cur with result := "Succeeded", message := op.state.succeededMsg }
      else { cur with result := "Failed", message := failure })
  else w

def csiStep : CsiStep -> FenceWorld
  | .adopt name =>
    match w.fences.find name with
    | none => w
    | some cur => if cur.terminating then w else storeFence w cur { cur with finalizer := true }
  | .execute name how =>
    match w.fences.find name with
    | none => w
    | some cur => executeFence w cur how
  | .report name failure =>
    match w.fences.find name, w.operations name with
    | some cur, some op => reportFence w cur op failure
    | _, _ => w
  -- Deleting the object drops the finalizer and leaves the blocklist alone.
  | .finalize name =>
    match w.fences.find name with
    | none => w
    | some cur => if cur.terminating then { w with fences := w.fences.remove name } else w

namespace StorageFencer

abbrev Fencing := Prog FenceCall FenceReply

namespace Ask

def get (name : String) : Fencing (Except ApiError NetworkFence) := Prog.ask (FenceCall.get name)

def create : Fencing (Except ApiError Unit) := Prog.ask (FenceCall.create object)

def update : Fencing (Except ApiError Unit) := Prog.ask (FenceCall.update object)

def delete : Fencing (Except ApiError Unit) := Prog.ask (FenceCall.delete object)

end Ask

def obj (state : FenceState) : NetworkFence where
  name := fenceName pfx
  resourceVersion := 0
  owner := pool
  cidr := pfx
  fenceState := state
  result := ""
  message := ""
  finalizer := false
  terminating := false

def statusText : String := "(result=" ++ cur.result.quote ++ ", message=" ++ cur.message.quote ++ ")"

def fence (pool pfx : String) : Fencing (Except String Unit) := do
  let want := obj pool pfx .fenced
  let said (text : String) : Except String Unit := .error ("NetworkFence " ++ want.name ++ text)
  match <- Ask.get want.name with
  | .error .notFound =>
    match <- Ask.create want with
    | .error e => pure (.error ("create NetworkFence " ++ want.name ++ ": " ++ e.text))
    | .ok () => pure (said " created; awaiting Succeeded")
  | .error e => pure (.error ("get NetworkFence " ++ want.name ++ ": " ++ e.text))
  | .ok cur =>
    if cur.terminating then pure (said " is being deleted; awaiting it to re-fence")
    else if cur.owner ≠ pool then
      pure (said (" is held for pool " ++ cur.owner.quote ++ ", not " ++ pool ++ "; not touching it"))
    else if cur.fenceState ≠ .fenced then
      if cur.result ≠ "Succeeded" \/ cur.message ≠ unfenceSucceededMsg then
        pure (said (" is " ++ cur.fenceState.text ++ " with its unfence not yet reported " ++
          statusText cur ++ "; awaiting it before re-fencing"))
      else
        -- The object is spent: a fresh one's only Succeeded can be a fence operation's.
        match <- Ask.delete cur with
        | .ok () | .error .notFound =>
          pure (said " was unfenced; replacing it with a fresh Fenced one")
        | .error e =>
          pure (.error ("delete unfenced NetworkFence " ++ want.name ++ " to re-fence: " ++ e.text))
    else if cur.result ≠ "Succeeded" \/ cur.message ≠ fenceSucceededMsg then
      pure (said (" not active " ++ statusText cur))
    else pure (.ok ())

def release (pool pfx : String) : Fencing (Except String Unit) := do
  let name := fenceName pfx
  let said (text : String) : Except String Unit := .error ("NetworkFence " ++ name ++ text)
  match <- Ask.get name with
  | .error .notFound => pure (.ok ())
  | .error e => pure (.error ("get NetworkFence " ++ name ++ ": " ++ e.text))
  | .ok cur =>
    if cur.owner ≠ pool then
      pure (said (" is held for pool " ++ cur.owner.quote ++ ", not " ++ pool ++ "; refusing to release it"))
    else if cur.fenceState ≠ .unfenced then
      match <- Ask.update { cur with fenceState := .unfenced } with
      | .error e => pure (.error ("update NetworkFence " ++ name ++ " to Unfenced: " ++ e.text))
      | .ok () => pure (said " set Unfenced; awaiting un-fence")
    else if cur.result ≠ "Succeeded" \/ cur.message ≠ unfenceSucceededMsg then
      pure (said (" un-fence not confirmed " ++ statusText cur))
    else
      match <- Ask.delete cur with
      | .ok () | .error .notFound => pure (.ok ())
      | .error e => pure (.error ("delete NetworkFence " ++ name ++ ": " ++ e.text))

def fencedFor : Fencing (Except String (Option String)) := do
  match <- Ask.get (fenceName pfx) with
  | .error .notFound => pure (.ok none)
  | .error e => pure (.error ("get NetworkFence " ++ fenceName pfx ++ ": " ++ e.text))
  | .ok cur => pure (.ok (some cur.owner))

end StorageFencer

end Ectobase.Dispatch
