import ProtocolProbe.Client.Tunnel

/-!
# The run of `test_dns_tunnel.py`

`DnsTunnelTester.run` runs the whole test in one `try`; its `except` clauses turn
`KeyboardInterrupt` and any `Exception` into `False`, and its `finally` runs `cleanup`.
The model keeps Python's rules: `SystemExit` passes `except Exception`, an exception raised
in `finally` replaces the outcome, and attributes set before a raise stay set.  A
`TunnelEnv` says how each blocking call ends; SIGINT arrives during one of them, where
`signal_handler` raises `SystemExit(0)`.  A process is left running only when a `wait`
raised (`main_stops_processes`), the temporary directory is removed exactly when `genkey`
printed a key pair (`main_tempDir`), and the exit status is `0` only on a pass or SIGINT
(`main_status_zero`).
-/

namespace ProtocolProbe.Client

/-- What reaches the clauses of `run` and `__main__`: `SystemExit` and `KeyboardInterrupt`,
which are not instances of `Exception`, and any instance of `Exception`. -/
inductive PyExc
  | systemExit (code : Nat)
  | keyboardInterrupt
  | exception
deriving DecidableEq, Repr

/-- How a call that blocks ends when it returns no value. -/
inductive Raised
  /-- An `Exception`: a binary that is not there, a `wait` that times out. -/
  | exception
  /-- SIGINT arrives during the call. -/
  | interrupt
deriving DecidableEq, Repr

/-- `signal_handler`, which `__main__` installs for SIGINT: `sys.exit(0)`. -/
def signalHandler : PyExc := .systemExit 0

def Raised.toPyExc : Raised → PyExc
  | .exception => .exception
  | .interrupt => signalHandler

/-- How each call of the run that blocks ends. -/
structure TunnelEnv where
  /-- `subprocess.run` of `nooshdaroo genkey`: its stdout and stderr. -/
  genkey : Except Raised (List Char × List Char)
  /-- `Popen` of the server. -/
  serverPopen : Except Raised Unit
  /-- `time.sleep(2)` and `poll()`: whether the server still runs. -/
  serverPoll : Except Raised Bool
  /-- `Popen` of the client. -/
  clientPopen : Except Raised Unit
  /-- `time.sleep(3)` and `poll()`: whether the client still runs. -/
  clientPoll : Except Raised Bool
  /-- `subprocess.run` of `curl`: its stdout. -/
  curl : Except Raised (List Char)
  /-- `wait(timeout=5)` after `terminate()`, on a client that still runs. -/
  clientWait : Except Raised Unit
  /-- `wait(timeout=5)` after `terminate()`, on a server that still runs. -/
  serverWait : Except Raised Unit

namespace TunnelEnv

/-- `genkey` printed a key pair that `generate_keys` reads. -/
def HasKeys (env : TunnelEnv) : Prop :=
  ∃ stdout stderr keys, env.genkey = .ok (stdout, stderr) ∧
    Client.generateKeys stdout stderr = some keys

/-- The keys were read, and the server and the client still ran after their sleeps. -/
def Started (env : TunnelEnv) : Prop :=
  env.HasKeys ∧ env.serverPopen = .ok () ∧ env.serverPoll = .ok true ∧
    env.clientPopen = .ok () ∧ env.clientPoll = .ok true

def Passed (env : TunnelEnv) : Prop :=
  ∃ stdout, env.curl = .ok stdout ∧ Client.testTunnel stdout = true

def Interrupted (env : TunnelEnv) : Prop :=
  env.genkey = .error .interrupt ∨ env.serverPopen = .error .interrupt ∨
    env.serverPoll = .error .interrupt ∨ env.clientPopen = .error .interrupt ∨
    env.clientPoll = .error .interrupt ∨ env.curl = .error .interrupt ∨
    env.clientWait = .error .interrupt ∨ env.serverWait = .error .interrupt

end TunnelEnv

/-- The attributes of `DnsTunnelTester` that the run reads, and the files it makes.  A
process is `none` until `Popen` returns, and then whether it still runs. -/
structure DnsTunnelTester where
  serverProcess : Option Bool
  clientProcess : Option Bool
  serverConfig : Bool
  clientConfig : Bool
  tempDir : Bool
deriving DecidableEq, Repr

/-- Python code over the tester: an attribute set before an exception stays set. -/
abbrev Py := ExceptT PyExc (StateM DnsTunnelTester)

def Py.exec {α : Type} (x : Py α) (t : DnsTunnelTester) : Except PyExc α × DnsTunnelTester :=
  x.run.run t

/-- A call that blocks: its value, or what it raises. -/
def call {α : Type} : Except Raised α → Py α
  | .ok a => pure a
  | .error r => throw r.toPyExc

section Exec

variable {α β : Type} (t : DnsTunnelTester)

@[simp] theorem Py.exec_pure (a : α) : (pure a : Py α).exec t = (.ok a, t) := rfl

@[simp] theorem Py.exec_throw (e : PyExc) : (throw e : Py α).exec t = (.error e, t) := rfl

@[simp] theorem Py.exec_get : (get : Py DnsTunnelTester).exec t = (.ok t, t) := rfl

@[simp] theorem Py.exec_modify (f : DnsTunnelTester → DnsTunnelTester) :
    (modify f : Py Unit).exec t = (.ok (), f t) := rfl

theorem Py.exec_bind (x : Py α) (f : α → Py β) :
    (x >>= f).exec t = match x.exec t with
      | (.ok a, t') => (f a).exec t'
      | (.error e, t') => (.error e, t') := by
  simp only [Py.exec, ExceptT.run_bind, StateT.run_bind]
  rcases x.run.run t with ⟨_ | _, _⟩ <;> rfl

theorem Py.exec_bind_ok {x : Py α} {f : α → Py β} {a : α} {t' : DnsTunnelTester}
    (h : x.exec t = (.ok a, t')) : (x >>= f).exec t = (f a).exec t' := by
  rw [Py.exec_bind, h]

theorem Py.exec_map (g : α → β) (x : Py α) :
    (g <$> x).exec t = match x.exec t with
      | (.ok a, t') => (.ok (g a), t')
      | (.error e, t') => (.error e, t') := by
  rw [map_eq_pure_bind, Py.exec_bind]
  rcases x.exec t with ⟨_ | _, _⟩ <;> rfl

theorem Py.exec_tryCatch (x : Py α) (h : PyExc → Py α) :
    (tryCatch x h).exec t = match x.exec t with
      | (.ok a, t') => (.ok a, t')
      | (.error e, t') => (h e).exec t' := by
  show (ExceptT.tryCatch x h).run.run t = _
  simp only [ExceptT.tryCatch, ExceptT.mk, ExceptT.run, StateT.run_bind, Py.exec]
  rcases StateT.run x t with ⟨_ | _, _⟩ <;> rfl

@[simp] theorem call_ok (a : α) : (call (.ok a : Except Raised α)).exec t = (.ok a, t) := rfl

@[simp] theorem call_error (r : Raised) :
    (call (.error r : Except Raised α)).exec t = (.error r.toPyExc, t) := rfl

/-- From every tester, `x` returns a value that satisfies `Q` or raises an exception that
satisfies `P`. -/
structure Py.Ends (Q : α → Prop) (P : PyExc → Prop) (x : Py α) : Prop where
  ok : ∀ t a, (x.exec t).1 = .ok a → Q a
  error : ∀ t e, (x.exec t).1 = .error e → P e

variable {Q : β → Prop} {P : PyExc → Prop}

theorem Py.ends_pure {b : β} (h : Q b) : Py.Ends Q P (pure b) :=
  ⟨fun _ _ hb ↦ by cases hb; exact h, fun _ _ he ↦ by cases he⟩

theorem Py.ends_throw {e : PyExc} (h : P e) : Py.Ends Q P (throw e) :=
  ⟨fun _ _ hb ↦ (by cases hb), fun _ _ he ↦ by cases he; exact h⟩

theorem Py.ends_modify {f : DnsTunnelTester → DnsTunnelTester} :
    Py.Ends (fun _ ↦ True) P (modify f) :=
  ⟨fun _ _ _ ↦ trivial, fun _ _ he ↦ by cases he⟩

theorem Py.ends_get {Q : DnsTunnelTester → Prop} (h : ∀ t, Q t) : Py.Ends Q P get :=
  ⟨fun t _ ht ↦ by cases ht; exact h t, fun _ _ he ↦ by cases he⟩

theorem Py.ends_call {c : Except Raised β} (hok : ∀ b, c = .ok b → Q b)
    (herror : ∀ r, c = .error r → P r.toPyExc) : Py.Ends Q P (call c) := by
  cases c with
  | ok b => exact Py.ends_pure (hok b rfl)
  | error r => exact Py.ends_throw (herror r rfl)

theorem Py.ends_bind {Q' : α → Prop} {x : Py α} {f : α → Py β} (hx : Py.Ends Q' P x)
    (hf : ∀ a, Q' a → Py.Ends Q P (f a)) : Py.Ends Q P (x >>= f) := by
  refine ⟨fun t b h ↦ ?_, fun t e h ↦ ?_⟩ <;> rw [Py.exec_bind] at h <;>
    rcases hxt : x.exec t with ⟨e' | a, t'⟩ <;> simp only [hxt] at h
  · cases h
  · exact (hf a (hx.ok t a (by rw [hxt]))).ok t' b h
  · cases h; exact hx.error t e (by rw [hxt])
  · exact (hf a (hx.ok t a (by rw [hxt]))).error t' e h

theorem Py.ends_tryCatch {P' : PyExc → Prop} {x : Py β} {h : PyExc → Py β}
    (hx : Py.Ends Q P' x) (hh : ∀ e, P' e → Py.Ends Q P (h e)) :
    Py.Ends Q P (tryCatch x h) := by
  refine ⟨fun t b hb ↦ ?_, fun t e he ↦ ?_⟩
  · rw [Py.exec_tryCatch] at hb
    rcases hxt : x.exec t with ⟨e' | a, t'⟩ <;> simp only [hxt] at hb
    · exact (hh e' (hx.error t e' (by rw [hxt]))).ok t' b hb
    · cases hb; exact hx.ok t b (by rw [hxt])
  · rw [Py.exec_tryCatch] at he
    rcases hxt : x.exec t with ⟨e' | a, t'⟩ <;> simp only [hxt] at he
    · exact (hh e' (hx.error t e' (by rw [hxt]))).error t' e he
    · cases he

theorem Py.ends_map {Q' : α → Prop} {g : α → β} {x : Py α} (hx : Py.Ends Q' P x)
    (hg : ∀ a, Q' a → Q (g a)) : Py.Ends Q P (g <$> x) := by
  rw [map_eq_pure_bind]
  exact Py.ends_bind hx fun a ha ↦ Py.ends_pure (hg a ha)

/-- `x` leaves `f` of the tester as it was, whatever it ends with. -/
def Py.Keeps {γ : Type} (f : DnsTunnelTester → γ) (x : Py α) : Prop := ∀ t, f (x.exec t).2 = f t

variable {γ : Type} {f : DnsTunnelTester → γ}

theorem Py.keeps_bind {x : Py α} {k : α → Py β} (hx : Py.Keeps f x) (hk : ∀ a, Py.Keeps f (k a)) :
    Py.Keeps f (x >>= k) := by
  intro t
  rw [Py.exec_bind]
  rcases hxt : x.exec t with ⟨e | a, t'⟩
  · rw [← hx t, hxt]
  · rw [hk a t', ← hx t, hxt]

end Exec

namespace DnsTunnelTester

/-- `DnsTunnelTester()`: no process yet, and `tempfile.mkdtemp()` has made the directory. -/
def init : DnsTunnelTester := ⟨none, none, false, false, true⟩

/-- `generate_keys`: `sys.exit(1)` when the output of `genkey` names no key pair. -/
def generateKeys (genkey : Except Raised (List Char × List Char)) : Py Unit := do
  let (stdout, stderr) ← call genkey
  if (Client.generateKeys stdout stderr).isNone then throw (.systemExit 1)

/-- `create_server_config`: the write into the directory `mkdtemp` made is taken to succeed. -/
def createServerConfig : Py Unit := modify fun t ↦ { t with serverConfig := true }

def createClientConfig : Py Unit := modify fun t ↦ { t with clientConfig := true }

@[simp] theorem createServerConfig_exec (t : DnsTunnelTester) :
    createServerConfig.exec t = (.ok (), { t with serverConfig := true }) := rfl

@[simp] theorem createClientConfig_exec (t : DnsTunnelTester) :
    createClientConfig.exec t = (.ok (), { t with clientConfig := true }) := rfl

/-- `start_server` and `start_client`: `Popen` stores the process, and one that `poll()` finds
exited after the sleep ends the program with `sys.exit(1)`. -/
def startProcess (setProcess : Option Bool → DnsTunnelTester → DnsTunnelTester)
    (popen : Except Raised Unit) (poll : Except Raised Bool) : Py Unit := do
  call popen
  modify (setProcess (some true))
  let running ← call poll
  unless running do
    modify (setProcess (some false))
    throw (.systemExit 1)

def startServer (env : TunnelEnv) : Py Unit :=
  startProcess (fun p t ↦ { t with serverProcess := p }) env.serverPopen env.serverPoll

def startClient (env : TunnelEnv) : Py Unit :=
  startProcess (fun p t ↦ { t with clientProcess := p }) env.clientPopen env.clientPoll

/-- `test_tunnel`: runs `curl` and reads its stdout (`Client.testTunnel`). -/
def testTunnel (curl : Except Raised (List Char)) : Py Bool := do
  let stdout ← call curl
  pure (Client.testTunnel stdout)

/-- `if process: process.terminate(); process.wait(timeout=5)`.  A process that has exited
ignores the signal and is reaped at once; one that runs has stopped when the wait returns. -/
def stopProcess (wait : Except Raised Unit) : Option Bool → Except Raised (Option Bool)
  | some true => wait.map fun () ↦ some false
  | process => .ok process

/-- The `try` block of `cleanup`: `os.unlink` raises `FileNotFoundError` for a config that was
never written, and `os.rmdir` then finds the directory empty. -/
def removeTempFiles : Py Unit := do
  unless (← get).serverConfig do throw .exception
  modify fun t ↦ { t with serverConfig := false }
  unless (← get).clientConfig do throw .exception
  modify fun t ↦ { t with clientConfig := false }
  modify fun t ↦ { t with tempDir := false }

/-- The `except Exception` clause of `cleanup`: a warning; `SystemExit` passes. -/
def cleanupHandler : PyExc → Py Unit
  | .exception => pure ()
  | e => throw e

/-- `cleanup`: the client, then the server, then the files. -/
def cleanup (env : TunnelEnv) : Py Unit := do
  let client ← call (stopProcess env.clientWait (← get).clientProcess)
  modify fun t ↦ { t with clientProcess := client }
  let server ← call (stopProcess env.serverWait (← get).serverProcess)
  modify fun t ↦ { t with serverProcess := server }
  tryCatch removeTempFiles cleanupHandler

def runBody (env : TunnelEnv) : Py Bool := do
  generateKeys env.genkey
  createServerConfig
  createClientConfig
  startServer env
  startClient env
  testTunnel env.curl

/-- The `except` clauses of `run`: `KeyboardInterrupt` and any `Exception` give `False`, and
`SystemExit` passes. -/
def runHandler : PyExc → Py Bool
  | .keyboardInterrupt => pure false
  | .exception => pure false
  | e => throw e

/-- `run`: the `finally` clause runs `cleanup` after the body and its handlers, and an
exception it raises replaces their outcome. -/
def run (env : TunnelEnv) : Py Bool := do
  let outcome ← tryCatch (Except.ok <$> tryCatch (runBody env) runHandler)
    fun e ↦ pure (.error e)
  cleanup env
  MonadExcept.ofExcept outcome

/-- The exit status of `__main__`: `sys.exit(0 if success else 1)`, the code of a
`SystemExit`, `1` for an exception no clause catches, and `130` for a `KeyboardInterrupt`,
of which the process dies by SIGINT. -/
def exitStatus : Except PyExc Bool → Nat
  | .ok success => if success then 0 else 1
  | .error (.systemExit code) => code
  | .error .exception => 1
  | .error .keyboardInterrupt => 130

/-- `__main__`: the exit status and the tester after the run. -/
def main (env : TunnelEnv) : Nat × DnsTunnelTester :=
  let (outcome, t) := (run env).exec init
  (exitStatus outcome, t)

def files (t : DnsTunnelTester) : Bool × Bool × Bool := (t.serverConfig, t.clientConfig, t.tempDir)

def started : DnsTunnelTester := ⟨some true, some true, true, true, true⟩

def cleaned : DnsTunnelTester := ⟨some false, some false, false, false, false⟩

/-- A run in which `genkey` prints a key pair and both processes start; `curl` and the wait of
the client end as given. -/
def startedEnv (curl : Except Raised (List Char)) (clientWait : Except Raised Unit) : TunnelEnv :=
  ⟨.ok ("private key: k\npublic key: p".toList, []), .ok (), .ok true, .ok (), .ok true, curl,
    clientWait, .ok ()⟩

theorem startedEnv_started (curl : Except Raised (List Char)) (clientWait : Except Raised Unit) :
    (startedEnv curl clientWait).Started :=
  ⟨⟨_, _, ("k".toList, "p".toList), rfl, by decide⟩, rfl, rfl, rfl, rfl⟩

/-! ### One lemma per method -/

theorem generateKeys_state (genkey : Except Raised (List Char × List Char)) (t : DnsTunnelTester) :
    ((generateKeys genkey).exec t).2 = t := by
  rcases genkey with r | ⟨stdout, stderr⟩
  · rfl
  · simp only [generateKeys, Py.exec_bind, call_ok]
    split <;> rfl

theorem generateKeys_exec_of_keys {genkey : Except Raised (List Char × List Char)}
    {stdout stderr : List Char} {keys : List Char × List Char} (hg : genkey = .ok (stdout, stderr))
    (hk : Client.generateKeys stdout stderr = some keys) (t : DnsTunnelTester) :
    (generateKeys genkey).exec t = (.ok (), t) := by
  simp only [hg, generateKeys, Py.exec_bind, call_ok, hk, Option.isNone_some]
  rfl

theorem generateKeys_error {env : TunnelEnv} (h : ¬env.HasKeys) (t : DnsTunnelTester) :
    ∃ e, (generateKeys env.genkey).exec t = (.error e, t) := by
  rcases hg : env.genkey with r | ⟨stdout, stderr⟩
  · exact ⟨_, rfl⟩
  · cases hk : Client.generateKeys stdout stderr with
    | none => exact ⟨_, by simp only [generateKeys, Py.exec_bind, call_ok, hk]; rfl⟩
    | some keys => exact absurd ⟨stdout, stderr, keys, hg, hk⟩ h

theorem startProcess_of_running {setProcess : Option Bool → DnsTunnelTester → DnsTunnelTester}
    {popen : Except Raised Unit} {poll : Except Raised Bool} (hp : popen = .ok ())
    (hl : poll = .ok true) (t : DnsTunnelTester) :
    (startProcess setProcess popen poll).exec t = (.ok (), setProcess (some true) t) := by
  simp only [hp, hl, startProcess, Py.exec_bind, call_ok, Py.exec_modify]
  rfl

theorem keeps_startProcess {γ : Type} {f : DnsTunnelTester → γ}
    {setProcess : Option Bool → DnsTunnelTester → DnsTunnelTester}
    (hset : ∀ p t, f (setProcess p t) = f t) (popen : Except Raised Unit)
    (poll : Except Raised Bool) : Py.Keeps f (startProcess setProcess popen poll) := by
  intro t
  rcases popen with r | ⟨⟩
  · rfl
  · rcases poll with r | _ | _ <;>
      simp only [startProcess, Py.exec_bind, call_ok, call_error, Py.exec_modify, Py.exec_throw,
        Py.exec_pure, hset, ite_true, ite_false, Bool.false_eq_true]

theorem startServer_of_running {env : TunnelEnv} (hp : env.serverPopen = .ok ())
    (hl : env.serverPoll = .ok true) (t : DnsTunnelTester) :
    (startServer env).exec t = (.ok (), { t with serverProcess := some true }) :=
  startProcess_of_running hp hl t

theorem startClient_of_running {env : TunnelEnv} (hp : env.clientPopen = .ok ())
    (hl : env.clientPoll = .ok true) (t : DnsTunnelTester) :
    (startClient env).exec t = (.ok (), { t with clientProcess := some true }) :=
  startProcess_of_running hp hl t

@[simp] theorem testTunnel_exec_ok (stdout : List Char) (t : DnsTunnelTester) :
    (testTunnel (.ok stdout)).exec t = (.ok (Client.testTunnel stdout), t) := rfl

@[simp] theorem testTunnel_exec_error (r : Raised) (t : DnsTunnelTester) :
    (testTunnel (.error r)).exec t = (.error r.toPyExc, t) := rfl

theorem testTunnel_state (curl : Except Raised (List Char)) (t : DnsTunnelTester) :
    ((testTunnel curl).exec t).2 = t := by
  cases curl <;> rfl

theorem runBody_files {env : TunnelEnv} (h : env.HasKeys) :
    files ((runBody env).exec init).2 = (true, true, true) := by
  obtain ⟨stdout, stderr, keys, hg, hk⟩ := h
  have hserver : Py.Keeps files (startServer env) := by
    unfold startServer; exact keeps_startProcess (fun _ _ ↦ by rfl) _ _
  have hclient : Py.Keeps files (startClient env) := by
    unfold startClient; exact keeps_startProcess (fun _ _ ↦ by rfl) _ _
  have htail : Py.Keeps files (do startServer env; startClient env; testTunnel env.curl) :=
    Py.keeps_bind hserver fun _ ↦ Py.keeps_bind hclient fun _ t ↦
      congrArg files (testTunnel_state _ t)
  rw [runBody, Py.exec_bind_ok _ (generateKeys_exec_of_keys hg hk init),
    Py.exec_bind_ok _ (createServerConfig_exec _), Py.exec_bind_ok _ (createClientConfig_exec _),
    htail]
  rfl

theorem runBody_of_started {env : TunnelEnv} (h : env.Started) :
    (runBody env).exec init = (testTunnel env.curl).exec started := by
  obtain ⟨⟨stdout, stderr, keys, hg, hk⟩, hsp, hsl, hcp, hcl⟩ := h
  rw [runBody, Py.exec_bind_ok _ (generateKeys_exec_of_keys hg hk init),
    Py.exec_bind_ok _ (createServerConfig_exec _), Py.exec_bind_ok _ (createClientConfig_exec _),
    Py.exec_bind_ok _ (startServer_of_running hsp hsl _),
    Py.exec_bind_ok _ (startClient_of_running hcp hcl _)]
  rfl

theorem runBody_of_not_hasKeys {env : TunnelEnv} (h : ¬env.HasKeys) :
    ∃ e, (runBody env).exec init = (.error e, init) := by
  obtain ⟨e, he⟩ := generateKeys_error h init
  exact ⟨e, by rw [runBody, Py.exec_bind, he]⟩

theorem stopProcess_ok (process : Option Bool) :
    stopProcess (.ok ()) process = .ok (process.map fun _ ↦ false) := by
  rcases process with _ | _ | _ <;> rfl

theorem stopProcess_ne_running {wait : Except Raised Unit} {process process' : Option Bool}
    (h : stopProcess wait process = .ok process') : process' ≠ some true := by
  rcases process with _ | _ | _ <;> rcases wait with _ | _ <;> cases h <;> simp

theorem stopProcess_error {wait : Except Raised Unit} {process : Option Bool} {r : Raised}
    (h : stopProcess wait process = .error r) : wait = .error r := by
  rcases process with _ | _ | _ <;> rcases wait with _ | _ <;> cases h
  rfl

theorem removeTempFiles_exec (t : DnsTunnelTester) :
    (tryCatch removeTempFiles cleanupHandler).exec t = (.ok (),
      if t.serverConfig then
        if t.clientConfig then
          { t with serverConfig := false, clientConfig := false, tempDir := false }
        else { t with serverConfig := false }
      else t) := by
  rcases t with ⟨_, _, _ | _, _ | _, _⟩ <;> rfl

theorem cleanup_exec (env : TunnelEnv) (t : DnsTunnelTester) :
    (cleanup env).exec t =
      match stopProcess env.clientWait t.clientProcess with
      | .error r => (.error r.toPyExc, t)
      | .ok client =>
        match stopProcess env.serverWait t.serverProcess with
        | .error r => (.error r.toPyExc, { t with clientProcess := client })
        | .ok server =>
          (tryCatch removeTempFiles cleanupHandler).exec
            { t with clientProcess := client, serverProcess := server } := by
  simp only [cleanup, Py.exec_bind, Py.exec_get]
  rcases stopProcess env.clientWait t.clientProcess with r | client
  · rfl
  · simp only [call_ok, Py.exec_modify, Py.exec_bind, Py.exec_get]
    rcases stopProcess env.serverWait t.serverProcess with r | server <;> rfl

theorem run_exec (env : TunnelEnv) (t : DnsTunnelTester) :
    (run env).exec t =
      match (cleanup env).exec ((runBody env).exec t).2 with
      | (.error e, t') => (.error e, t')
      | (.ok (), t') => (((tryCatch (runBody env) runHandler).exec t).1, t') := by
  simp only [run, Py.exec_bind, Py.exec_tryCatch, Py.exec_map]
  rcases (runBody env).exec t with ⟨e | b, t₁⟩
  · rcases e with _ | _ | _ <;> simp only [runHandler, Py.exec_pure, Py.exec_throw] <;>
      rcases (cleanup env).exec t₁ with ⟨_ | _, _⟩ <;> rfl
  · dsimp only
    rcases (cleanup env).exec t₁ with ⟨_ | _, _⟩ <;> rfl

theorem run_state (env : TunnelEnv) (t : DnsTunnelTester) :
    ((run env).exec t).2 = ((cleanup env).exec ((runBody env).exec t).2).2 := by
  rw [run_exec]
  rcases (cleanup env).exec ((runBody env).exec t).2 with ⟨_ | _, _⟩ <;> rfl

theorem removeTempFiles_processes (t : DnsTunnelTester) :
    ((tryCatch removeTempFiles cleanupHandler).exec t).2.clientProcess = t.clientProcess ∧
      ((tryCatch removeTempFiles cleanupHandler).exec t).2.serverProcess = t.serverProcess := by
  rw [removeTempFiles_exec]
  split_ifs <;> exact ⟨rfl, rfl⟩

/-- From any tester, `cleanup` leaves a process running only when a wait raised: the client's
own, or for the server either, since a raising wait of the client ends `cleanup` before the
server's turn. -/
theorem cleanup_stops (env : TunnelEnv) (t : DnsTunnelTester) :
    (((cleanup env).exec t).2.clientProcess = some true → ∃ r, env.clientWait = .error r) ∧
      (((cleanup env).exec t).2.serverProcess = some true →
        (∃ r, env.clientWait = .error r) ∨ ∃ r, env.serverWait = .error r) := by
  rw [cleanup_exec]
  rcases hc : stopProcess env.clientWait t.clientProcess with r | client
  · exact ⟨fun _ ↦ ⟨r, stopProcess_error hc⟩, fun _ ↦ .inl ⟨r, stopProcess_error hc⟩⟩
  · rcases hs : stopProcess env.serverWait t.serverProcess with r | server
    · exact ⟨fun h ↦ absurd h (stopProcess_ne_running hc),
        fun _ ↦ .inr ⟨r, stopProcess_error hs⟩⟩
    · obtain ⟨hcp, hsp⟩ :=
        removeTempFiles_processes { t with clientProcess := client, serverProcess := server }
      dsimp only
      rw [hcp, hsp]
      exact ⟨fun h ↦ absurd h (stopProcess_ne_running hc),
        fun h ↦ absurd h (stopProcess_ne_running hs)⟩

/-! ### The exit status -/

theorem exitStatus_eq_zero {outcome : Except PyExc Bool} :
    exitStatus outcome = 0 ↔ outcome = .ok true ∨ outcome = .error signalHandler := by
  rcases outcome with (_ | _ | _) | (_ | _) <;> simp [exitStatus, signalHandler]

theorem main_eq (env : TunnelEnv) :
    main env = (exitStatus ((run env).exec init).1, ((run env).exec init).2) := rfl

section Interrupts

variable {I : Prop}

theorem call_interrupts {α : Type} {c : Except Raised α} (hc : c = .error .interrupt → I) :
    Py.Ends (fun a ↦ c = .ok a) (fun e ↦ e = signalHandler → I) (call c) :=
  Py.ends_call (fun _ h ↦ h) fun r hr he ↦ by
    cases r
    · cases he
    · exact hc hr

theorem generateKeys_interrupts {genkey : Except Raised (List Char × List Char)}
    (hg : genkey = .error .interrupt → I) :
    Py.Ends (fun _ ↦ True) (fun e ↦ e = signalHandler → I) (generateKeys genkey) :=
  Py.ends_bind (call_interrupts hg) fun ⟨_, _⟩ _ ↦ by
    dsimp only
    split
    · exact Py.ends_throw fun h ↦ absurd h (by decide)
    · exact Py.ends_pure trivial

theorem startProcess_interrupts {setProcess : Option Bool → DnsTunnelTester → DnsTunnelTester}
    {popen : Except Raised Unit} {poll : Except Raised Bool}
    (hp : popen = .error .interrupt → I) (hl : poll = .error .interrupt → I) :
    Py.Ends (fun _ ↦ True) (fun e ↦ e = signalHandler → I) (startProcess setProcess popen poll) :=
  Py.ends_bind (call_interrupts hp) fun _ _ ↦ Py.ends_bind Py.ends_modify fun _ _ ↦
    Py.ends_bind (call_interrupts hl) fun running _ ↦ by
      cases running
      · exact Py.ends_bind Py.ends_modify fun _ _ ↦ Py.ends_throw fun h ↦ absurd h (by decide)
      · exact Py.ends_pure trivial

theorem testTunnel_interrupts {curl : Except Raised (List Char)}
    (hc : curl = .error .interrupt → I) :
    Py.Ends (fun b ↦ b = true → ∃ stdout, curl = .ok stdout ∧ Client.testTunnel stdout = true)
      (fun e ↦ e = signalHandler → I) (testTunnel curl) :=
  Py.ends_bind (call_interrupts hc) fun stdout hs ↦ Py.ends_pure fun hb ↦ ⟨stdout, hs, hb⟩

theorem cleanup_interrupts {env : TunnelEnv} (hcw : env.clientWait = .error .interrupt → I)
    (hsw : env.serverWait = .error .interrupt → I) :
    Py.Ends (fun _ ↦ True) (fun e ↦ e = signalHandler → I) (cleanup env) := by
  have hfiles : Py.Ends (fun _ ↦ True) (fun e ↦ e = signalHandler → I)
      (tryCatch removeTempFiles cleanupHandler) :=
    ⟨fun _ _ _ ↦ trivial, fun t e he ↦ by rw [removeTempFiles_exec] at he; cases he⟩
  exact Py.ends_bind (Py.ends_get fun _ ↦ trivial) fun t _ ↦
    Py.ends_bind (call_interrupts fun h ↦ hcw (stopProcess_error h)) fun _ _ ↦
      Py.ends_bind Py.ends_modify fun _ _ ↦ Py.ends_bind (Py.ends_get fun _ ↦ trivial) fun _ _ ↦
        Py.ends_bind (call_interrupts fun h ↦ hsw (stopProcess_error h)) fun _ _ ↦
          Py.ends_bind Py.ends_modify fun _ _ ↦ hfiles

end Interrupts

theorem runBody_interrupts (env : TunnelEnv) :
    Py.Ends (fun b ↦ b = true → env.Passed) (fun e ↦ e = signalHandler → env.Interrupted)
      (runBody env) :=
  Py.ends_bind (generateKeys_interrupts fun h ↦ by simp [TunnelEnv.Interrupted, h]) fun _ _ ↦
    Py.ends_bind Py.ends_modify fun _ _ ↦ Py.ends_bind Py.ends_modify fun _ _ ↦
      Py.ends_bind (startProcess_interrupts (fun h ↦ by simp [TunnelEnv.Interrupted, h])
        fun h ↦ by simp [TunnelEnv.Interrupted, h]) fun _ _ ↦
      Py.ends_bind (startProcess_interrupts (fun h ↦ by simp [TunnelEnv.Interrupted, h])
        fun h ↦ by simp [TunnelEnv.Interrupted, h]) fun _ _ ↦
      testTunnel_interrupts fun h ↦ by simp [TunnelEnv.Interrupted, h]

theorem run_interrupts (env : TunnelEnv) :
    Py.Ends (fun b ↦ b = true → env.Passed) (fun e ↦ e = signalHandler → env.Interrupted)
      (run env) := by
  have handled : Py.Ends (fun b ↦ b = true → env.Passed)
      (fun e ↦ e = signalHandler → env.Interrupted) (tryCatch (runBody env) runHandler) :=
    Py.ends_tryCatch (runBody_interrupts env) fun e he ↦ by
      cases e
      · exact Py.ends_throw he
      · exact Py.ends_pure nofun
      · exact Py.ends_pure nofun
  have outcome : Py.Ends (fun o ↦ match o with
        | .ok b => b = true → env.Passed
        | .error e => e = signalHandler → env.Interrupted)
      (fun e ↦ e = signalHandler → env.Interrupted)
      (tryCatch (Except.ok <$> tryCatch (runBody env) runHandler) fun e ↦ pure (.error e)) :=
    Py.ends_tryCatch (Py.ends_map handled fun _ h ↦ h) fun _ he ↦ Py.ends_pure he
  refine Py.ends_bind outcome fun o ho ↦ Py.ends_bind
    (cleanup_interrupts (fun h ↦ by simp [TunnelEnv.Interrupted, h])
      fun h ↦ by simp [TunnelEnv.Interrupted, h]) fun _ _ ↦ ?_
  cases o
  · exact Py.ends_throw ho
  · exact Py.ends_pure ho

/-- The exit status is `0` only when `curl` printed `200` or SIGINT came during a call. -/
theorem main_status_zero (env : TunnelEnv) (h : (main env).1 = 0) :
    env.Passed ∨ env.Interrupted := by
  rcases exitStatus_eq_zero.1 h with ho | ho
  · exact .inl ((run_interrupts env).ok init true ho rfl)
  · exact .inr ((run_interrupts env).error init _ ho rfl)

theorem main_status_zero_passed :
    (main (startedEnv (.ok "HTTP Status: 200".toList) (.ok ()))).1 = 0 ∧
      ((startedEnv (.ok "HTTP Status: 200".toList) (.ok ())).Passed ∨
        (startedEnv (.ok "HTTP Status: 200".toList) (.ok ())).Interrupted) :=
  have h : (main (startedEnv (.ok "HTTP Status: 200".toList) (.ok ()))).1 = 0 := by decide
  ⟨h, main_status_zero _ h⟩

/-! ### What a run leaves behind -/

/-- After the run a process is still running only when a wait raised. -/
theorem main_stops_processes (env : TunnelEnv) :
    ((main env).2.clientProcess = some true → ∃ r, env.clientWait = .error r) ∧
      ((main env).2.serverProcess = some true →
        (∃ r, env.clientWait = .error r) ∨ ∃ r, env.serverWait = .error r) := by
  rw [main_eq, run_state]
  exact cleanup_stops env _

/-- Once both processes run, a wait of the client that times out ends the program with `1`
whatever `curl` printed, with the server still running and the files in place. -/
theorem main_client_timeout {env : TunnelEnv} (h : env.Started)
    (hw : env.clientWait = .error .exception) : main env = (1, started) := by
  have hbody : ((runBody env).exec init).2 = started := by
    rw [runBody_of_started h, testTunnel_state]
  have hcleanup : (cleanup env).exec started = (.error .exception, started) := by
    rw [cleanup_exec, hw]
    rfl
  rw [main_eq, run_exec, hbody, hcleanup]
  rfl

theorem main_client_timeout_passed :
    (startedEnv (.ok "HTTP Status: 200".toList) (.error .exception)).Started ∧
      (startedEnv (.ok "HTTP Status: 200".toList) (.error .exception)).clientWait =
        .error .exception ∧
      main (startedEnv (.ok "HTTP Status: 200".toList) (.error .exception)) = (1, started) :=
  ⟨startedEnv_started _ _, rfl, main_client_timeout (startedEnv_started _ _) rfl⟩

/-- When the waits return, the temporary directory is removed exactly when `genkey` printed a
key pair: a run that stops before the configs are written leaves it behind. -/
theorem main_tempDir {env : TunnelEnv} (hcw : env.clientWait = .ok ())
    (hsw : env.serverWait = .ok ()) : (main env).2.tempDir = false ↔ env.HasKeys := by
  rw [main_eq, run_state, cleanup_exec, hcw, hsw, stopProcess_ok, stopProcess_ok]
  by_cases h : env.HasKeys
  · have hf := runBody_files h
    simp only [files, Prod.mk.injEq] at hf
    simp [removeTempFiles_exec, hf, h]
  · obtain ⟨e, he⟩ := runBody_of_not_hasKeys h
    rw [he]
    simp [removeTempFiles_exec, init, h]

theorem main_tempDir_genkey_missing :
    ({ startedEnv (.ok []) (.ok ()) with genkey := .error .exception } : TunnelEnv).clientWait =
        .ok () ∧
      ({ startedEnv (.ok []) (.ok ()) with genkey := .error .exception } : TunnelEnv).serverWait =
        .ok () ∧
      ((main { startedEnv (.ok []) (.ok ()) with genkey := .error .exception }).2.tempDir = false ↔
        ({ startedEnv (.ok []) (.ok ()) with genkey := .error .exception } : TunnelEnv).HasKeys) :=
  ⟨rfl, rfl, main_tempDir rfl rfl⟩

/-- Once both processes run and the waits return, the program stops both processes and removes
the files, and exits with `0` exactly when `curl` printed `200` or SIGINT came during `curl`. -/
theorem main_of_started {env : TunnelEnv} (h : env.Started) (hcw : env.clientWait = .ok ())
    (hsw : env.serverWait = .ok ()) :
    (main env).2 = cleaned ∧ ((main env).1 = 0 ↔ env.Passed ∨ env.curl = .error .interrupt) := by
  have hbody := runBody_of_started h
  have hcleanup : (cleanup env).exec started = (.ok (), cleaned) := by
    rw [cleanup_exec, hcw, hsw]
    rfl
  rw [main_eq, run_exec, hbody, testTunnel_state, hcleanup, Py.exec_tryCatch, hbody]
  refine ⟨rfl, ?_⟩
  rcases hc : env.curl with (_ | _) | stdout <;>
    simp [hc, runHandler, exitStatus, TunnelEnv.Passed, Raised.toPyExc, signalHandler]

theorem main_of_started_interrupted :
    (startedEnv (.error .interrupt) (.ok ())).Started ∧
      (startedEnv (.error .interrupt) (.ok ())).clientWait = .ok () ∧
      (startedEnv (.error .interrupt) (.ok ())).serverWait = .ok () ∧
      (main (startedEnv (.error .interrupt) (.ok ()))).2 = cleaned ∧
      ((main (startedEnv (.error .interrupt) (.ok ()))).1 = 0 ↔
        (startedEnv (.error .interrupt) (.ok ())).Passed ∨
          (startedEnv (.error .interrupt) (.ok ())).curl = .error .interrupt) :=
  ⟨startedEnv_started _ _, rfl, rfl, main_of_started (startedEnv_started _ _) rfl rfl⟩

end DnsTunnelTester

end ProtocolProbe.Client
