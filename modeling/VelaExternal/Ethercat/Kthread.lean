import VelaExternal.Systems.Semaphore
import VelaExternal.Systems.Run

/-!
# Kernel threads on NuttX

`kthread_run`, `kthread_work` and `kthread_stop` of `nuttx/linux/kthread.c`, with
the stop test of `kthread.h`, as a machine of two tasks: the caller, which runs a
thread, assigns `master->thread` and stops the thread later, and the thread itself.
-/

set_option autoImplicit false

namespace VelaExternal.Ethercat

open Systems

/-- `struct task_struct`; functions and data are known by their addresses. -/
structure TaskStruct where
  threadid : Int
  running : Bool
  threadfn : Nat
  data : Nat
  semexit : Semaphore Unit

/-- A `struct task_struct *`, or an error number in its place. -/
inductive TaskPointer where
  | null
  | task (address : Nat)
  | error (code : Int)
  deriving DecidableEq

inductive CallerPc where
  | kmalloc
  | setFields (t : Nat)
  | kthreadCreate (t : Nat)
  | setThreadid (t : Nat) (ret : Int)
  | returned (result : TaskPointer)
  | assigned (result : TaskPointer)
  | semWait (t : Nat)
  | waiting (t : Nat)
  | free (t : Nat) (ret : Int)
  | stopped (t : Nat)
  deriving DecidableEq

/-- The thread is created with the address of its record as its argument. -/
inductive WorkerPc where
  | absent
  | entry (t : Nat)
  | threadfn (t : Nat)
  | post (t : Nat)
  | exited (t : Nat)
  deriving DecidableEq

structure Touch where
  address : Nat
  live : Bool
  deriving DecidableEq

structure Kthread where
  records : Nat → Option TaskStruct
  master : TaskPointer
  caller : CallerPc
  worker : WorkerPc
  touches : List Touch
  frees : List Nat

inductive KthreadEvent where
  | kmalloc (t : Nat) (contents : TaskStruct)
  | kmallocFailed
  | setFields (threadfn data : Nat)
  | create (pid : Nat)
  | createFailed (code : Nat)
  | setThreadid
  | assign
  | stop
  | semWait
  | interrupt
  | free
  | enter
  | stopTest
  | leave
  | post

namespace Kthread

def enomem : Int := 12

def initial (records : Nat → Option TaskStruct) (earlier : TaskPointer) : Kthread where
  records := records
  master := earlier
  caller := .kmalloc
  worker := .absent
  touches := []
  frees := []

def setRecord (state : Kthread) (t : Nat) (record : Option TaskStruct) : Kthread :=
  { state with records := Function.update state.records t record }

def freeRecord (state : Kthread) (t : Nat) : Kthread :=
  { state.setRecord t none with frees := state.frees ++ [t] }

def touch (state : Kthread) (t : Nat) : Kthread :=
  { state with touches := state.touches ++ [⟨t, (state.records t).isSome⟩] }

/-- `kthread_should_stop()`, when the record that it leads to is there. -/
def shouldStop (state : Kthread) : Option Bool :=
  match state.master with
  | .task t => (state.records t).map fun record => !record.running
  | _ => none

def stepCaller (state : Kthread) : KthreadEvent → Option Kthread
  | .kmalloc t contents =>
      match state.caller, state.records t with
      | .kmalloc, none => some { state.setRecord t (some contents) with caller := .setFields t }
      | _, _ => none
  | .kmallocFailed =>
      match state.caller with
      | .kmalloc => some { state with caller := .returned (.error (-enomem)) }
      | _ => none
  | .setFields threadfn data =>
      match state.caller with
      | .setFields t =>
          (state.records t).map fun record =>
            { state.setRecord t (some
                { record with running := true, threadfn, data, semexit := .init 0 }) with
              caller := .kthreadCreate t }
      | _ => none
  | .create pid =>
      match state.caller with
      | .kthreadCreate t => some { state with caller := .setThreadid t pid, worker := .entry t }
      | _ => none
  | .createFailed code =>
      match state.caller with
      | .kthreadCreate t =>
          some { state.freeRecord t with caller := .returned (.error (-(code + 1))) }
      | _ => none
  | .setThreadid =>
      match state.caller with
      | .setThreadid t ret =>
          (state.records t).map fun record =>
            { state.setRecord t (some { record with threadid := ret }) with
              caller := .returned (.task t) }
      | _ => none
  | .assign =>
      match state.caller with
      | .returned result => some { state with master := result, caller := .assigned result }
      | _ => none
  | .stop =>
      match state.caller with
      | .assigned (.task t) =>
          (state.records t).map fun record =>
            { state.setRecord t (some { record with running := false }) with caller := .semWait t }
      | _ => none
  | .semWait =>
      match state.caller with
      | .semWait t =>
          (state.records t).map fun record =>
            if available : record.semexit.Available then
              { state.setRecord t (some { record with semexit := record.semexit.take available })
                with caller := .free t 0 }
            else
              { state.setRecord t (some
                  { record with semexit := record.semexit.block () available }) with
                caller := .waiting t }
      | _ => none
  | .interrupt =>
      match state.caller with
      | .waiting t =>
          (state.records t).bind fun record =>
            if member : () ∈ record.semexit.blocked then
              -- the result of `nxsem_wait` is `-EINTR`
              some { state.setRecord t (some
                  { record with semexit := record.semexit.release () member }) with
                caller := .free t (-4) }
            else none
      | _ => none
  | .free =>
      match state.caller with
      | .free t _ => some { state.freeRecord t with caller := .stopped t }
      | _ => none
  | _ => none

/-- `nxsem_post(&t->semexit)`, which wakes the caller up when it waits. -/
def postExit (state : Kthread) (t : Nat) : Kthread :=
  match state.records t with
  | none => state
  | some record =>
      if member : () ∈ record.semexit.blocked then
        { state.setRecord t (some { record with semexit := record.semexit.release () member }) with
          caller := .free t 0 }
      else
        state.setRecord t (some { record with
          semexit := record.semexit.bank (List.eq_nil_iff_forall_not_mem.mpr fun _ => member) })

def stepWorker (state : Kthread) : KthreadEvent → Option Kthread
  | .enter =>
      match state.worker with
      | .entry t => some { state.touch t with worker := .threadfn t }
      | _ => none
  | .stopTest =>
      match state.worker, state.master with
      | .threadfn _, .task t => some (state.touch t)
      | .threadfn _, _ => some state
      | _, _ => none
  | .leave =>
      match state.worker with
      | .threadfn t => some { state with worker := .post t }
      | _ => none
  | .post =>
      match state.worker with
      | .post t => some { (state.touch t).postExit t with worker := .exited t }
      | _ => none
  | _ => none

def step (state : Kthread) (event : KthreadEvent) : Option Kthread :=
  state.stepCaller event <|> state.stepWorker event

end Kthread

end VelaExternal.Ethercat
