import Iec61850.ClientErrors
import Iec61850.GoText
import Iec61850.Ownership
import Iec61850.StepRuns

/-!
# The life of a client

`newClient` creates a TLS configuration and a connection in the library, and `Close`
destroys them.  Goroutines may create, use and close clients at the same time; a step is
one call of the library, the start or the end of a request, or the exchange of `connected`.
-/

namespace Iec61850.Mms

open Go Handles Transition

/-! ## The TLS configuration -/

/-- The fields that `createCTlsConfig` reads. -/
structure TLSConfig where
  keyFile : Str
  keyPassword : Str
  certFile : Str
  chainValidation : Bool
  allowOnlyKnownCertificates : Bool
  minTlsVersion : ℤ
  maxTlsVersion : ℤ
  caCerts : List Str
  allowedCertificates : List Str

/-- The calls that fill a configuration of the library. -/
inductive TlsCall
  | setChainValidation (enabled : Bool)
  | setAllowOnlyKnownCertificates (enabled : Bool)
  | setMinTlsVersion (version : ℤ)
  | setMaxTlsVersion (version : ℤ)
  | setOwnKeyFromFile (filename : Str) (keyPassword : Option Str)
  | setOwnCertificateFromFile (filename : Str)
  | addCACertificateFromFile (filename : Str)
  | addAllowedCertificateFromFile (filename : Str)
  deriving DecidableEq

/-- The calls of `createCTlsConfig`, up to the first that fails. -/
def TLSConfig.calls (that : TLSConfig) : List TlsCall :=
  [.setChainValidation that.chainValidation,
    .setAllowOnlyKnownCertificates that.allowOnlyKnownCertificates,
    .setMinTlsVersion that.minTlsVersion, .setMaxTlsVersion that.maxTlsVersion,
    .setOwnKeyFromFile that.keyFile
      (if that.keyPassword = [] then none else some that.keyPassword),
    .setOwnCertificateFromFile that.certFile] ++
    that.caCerts.map .addCACertificateFromFile ++
    that.allowedCertificates.map .addAllowedCertificateFromFile

/-- The error where the call answers `false`; the setters answer nothing. -/
def TlsCall.error : TlsCall → Option Str
  | .setOwnKeyFromFile filename _ => some (lit "failed to load private key " ++ filename)
  | .setOwnCertificateFromFile filename =>
      some (lit "failed to load own certificate " ++ filename)
  | .addCACertificateFromFile filename =>
      some (lit "failed to load CA certificate " ++ filename)
  | .addAllowedCertificateFromFile filename =>
      some (lit "failed to load allowed certificate " ++ filename)
  | _ => none

/-! ## Clients -/

structure Settings where
  host : Str := lit "localhost"
  port : ℤ := 102
  connectTimeout : UInt64 := 10000
  requestTimeout : UInt64 := 10000

/-- A connection of the library, before it is connected. -/
structure CConnection where
  tlsConfig : Option ℕ
  connectTimeout : UInt32
  requestTimeout : UInt32
  deriving DecidableEq

def Settings.connection (settings : Settings) (tlsConfig : Option ℕ) : CConnection where
  tlsConfig := tlsConfig
  connectTimeout := settings.connectTimeout.toUInt32
  requestTimeout := settings.requestTimeout.toUInt32

/-- How far `newClient` has come, and the client after it has returned one. -/
inductive ClientStage
  | configuring (tlsConfig : ℕ) (calls : List TlsCall)
  | creating (tlsConfig : Option ℕ)
  | connecting (conn : ℕ) (tlsConfig : Option ℕ)
  | refused (conn tlsConfig : ℕ) (err : IedError)
  /-- The error of `createCTlsConfig` is returned. -/
  | notConfigured (tlsConfig : ℕ) (err : Str)
  /-- The error of `IedConnection_connect` is returned. -/
  | notConnected (conn : ℕ) (err : IedError)
  | opened (conn : ℕ) (tlsConfig : Option ℕ) (connected : Bool)

/-- What a goroutine in `Close` has still to destroy. -/
inductive Closing
  | destroyConnection (conn : ℕ) (tlsConfig : Option ℕ)
  | destroyTlsConfig (tlsConfig : ℕ)

structure ConnectAttempt where
  settings : Settings
  stage : ClientStage

/-- What a request works with until it is answered. -/
structure InProgress where
  conn : ℕ
  tlsConfig : Option ℕ

/-- What the library has made for the clients, and where the goroutines are. -/
structure Lifetimes where
  connections : Store CConnection := {}
  tlsConfigs : Store Unit := {}
  attempts : ℕ → Option ConnectAttempt := fun _ => none
  closing : ℕ → Option Closing := fun _ => none
  requests : ℕ → Option InProgress := fun _ => none

inductive LifetimeAction
  | newClient (c : ℕ) (settings : Settings) (tlsConfig : Option TLSConfig)
  /-- The next call of `newClient`, with what the library returns. -/
  | connect (c : ℕ) (reply : ℤ)
  | close (goroutine c : ℕ)
  /-- The next call of a goroutine in `Close`. -/
  | destroy (goroutine : ℕ)
  /-- A goroutine calls a request on the connection of a client. -/
  | request (goroutine c : ℕ)
  /-- The request of a goroutine returns. -/
  | answer (goroutine : ℕ)

namespace Lifetimes

/-- Where there is a TLS configuration, the library reads it. -/
def useTls (tlsConfigs : Store Unit) (tlsConfig : Option ℕ) : Store Unit :=
  tlsConfig.elim tlsConfigs tlsConfigs.use

/-- The library works on a connection, with the TLS configuration that it was created
with. -/
def useConnection (s : Lifetimes) (conn : ℕ) (tlsConfig : Option ℕ) : Lifetimes :=
  { s with
    connections := s.connections.use conn
    tlsConfigs := useTls s.tlsConfigs tlsConfig }

def setStage (s : Lifetimes) (c : ℕ) (settings : Settings) (stage : ClientStage) : Lifetimes :=
  { s with attempts := Function.update s.attempts c (some ⟨settings, stage⟩) }

def setClosing (s : Lifetimes) (goroutine : ℕ) (closing : Option Closing) : Lifetimes :=
  { s with closing := Function.update s.closing goroutine closing }

def newClient (s : Lifetimes) (c : ℕ) (settings : Settings) :
    Option TLSConfig → Lifetimes
  | none => s.setStage c settings (.creating none)
  | some tlsConfig =>
      { s.setStage c settings (.configuring s.tlsConfigs.next tlsConfig.calls) with
        tlsConfigs := s.tlsConfigs.make () }

def connect (s : Lifetimes) (c : ℕ) (settings : Settings) (reply : ℤ) :
    ClientStage → Option Lifetimes
  | .configuring tlsConfig [] => some (s.setStage c settings (.creating (some tlsConfig)))
  | .configuring tlsConfig (call :: calls) =>
      let used : Lifetimes := { s with tlsConfigs := s.tlsConfigs.use tlsConfig }
      match call.error with
      | some err =>
          if reply = 0 then some (used.setStage c settings (.notConfigured tlsConfig err))
          else some (used.setStage c settings (.configuring tlsConfig calls))
      | none => some (used.setStage c settings (.configuring tlsConfig calls))
  | .creating tlsConfig =>
      some { s.setStage c settings (.connecting s.connections.next tlsConfig) with
        connections := s.connections.make (settings.connection tlsConfig)
        tlsConfigs := useTls s.tlsConfigs tlsConfig }
  | .connecting conn tlsConfig =>
      let used := s.useConnection conn tlsConfig
      match getIedClientError reply, tlsConfig with
      | none, tlsConfig => some (used.setStage c settings (.opened conn tlsConfig true))
      | some err, some tlsConfig => some (used.setStage c settings (.refused conn tlsConfig err))
      | some err, none => some (used.setStage c settings (.notConnected conn err))
  | .refused conn tlsConfig err =>
      some { s.setStage c settings (.notConnected conn err) with
        tlsConfigs := s.tlsConfigs.release tlsConfig }
  | .notConfigured _ _ => none
  | .notConnected _ _ => none
  | .opened _ _ _ => none

/-- `c.connected.CompareAndSwap(true, false)` lets one goroutine on. -/
def close (s : Lifetimes) (goroutine c : ℕ) (settings : Settings) :
    ClientStage → Option Lifetimes
  | .opened conn tlsConfig true =>
      some ((s.setStage c settings (.opened conn tlsConfig false)).setClosing goroutine
        (some (.destroyConnection conn tlsConfig)))
  | .opened _ _ false => some s
  | _ => none

/-- A connection with TLS is closed by means of its configuration. -/
def destroy (s : Lifetimes) (goroutine : ℕ) : Closing → Lifetimes
  | .destroyConnection conn none =>
      { s.setClosing goroutine none with connections := s.connections.release conn }
  | .destroyConnection conn (some tlsConfig) =>
      { s.setClosing goroutine (some (.destroyTlsConfig tlsConfig)) with
        connections := s.connections.release conn
        tlsConfigs := s.tlsConfigs.use tlsConfig }
  | .destroyTlsConfig tlsConfig =>
      { s.setClosing goroutine none with tlsConfigs := s.tlsConfigs.release tlsConfig }

def setRequest (s : Lifetimes) (goroutine : ℕ) (request : Option InProgress) : Lifetimes :=
  { s with requests := Function.update s.requests goroutine request }

/-- The connection is used at the start of a request, whether or not it is still there. -/
def request (s : Lifetimes) (goroutine : ℕ) : ClientStage → Option Lifetimes
  | .opened conn tlsConfig _ =>
      some ((s.useConnection conn tlsConfig).setRequest goroutine (some ⟨conn, tlsConfig⟩))
  | _ => none

/-- And at its end, when the answer has come. -/
def answer (s : Lifetimes) (goroutine : ℕ) (request : InProgress) : Lifetimes :=
  (s.useConnection request.conn request.tlsConfig).setRequest goroutine none

/-- A goroutine in `Close` or in a request does nothing else. -/
def step (s : Lifetimes) : LifetimeAction → Option Lifetimes
  | .newClient c settings tlsConfig =>
      match s.attempts c with
      | none => some (s.newClient c settings tlsConfig)
      | some _ => none
  | .connect c reply =>
      (s.attempts c).bind fun attempt => s.connect c attempt.settings reply attempt.stage
  | .close goroutine c =>
      match s.closing goroutine, s.requests goroutine with
      | none, none => (s.attempts c).bind fun attempt =>
          s.close goroutine c attempt.settings attempt.stage
      | _, _ => none
  | .destroy goroutine => (s.closing goroutine).map (s.destroy goroutine)
  | .request goroutine c =>
      match s.closing goroutine, s.requests goroutine with
      | none, none => (s.attempts c).bind fun attempt => s.request goroutine attempt.stage
      | _, _ => none
  | .answer goroutine => (s.requests goroutine).map (s.answer goroutine)

end Lifetimes

/-! ## Who has to destroy what -/

inductive LifetimeHolder
  | client (c : ℕ)
  | goroutine (g : ℕ)
  deriving DecidableEq

/-- The connection that a call of `newClient` made, or that belongs to an open client. -/
def ClientStage.connection : ClientStage → Option ℕ
  | .connecting conn _ => some conn
  | .refused conn _ _ => some conn
  | .notConnected conn _ => some conn
  | .opened conn _ true => some conn
  | _ => none

def ClientStage.tlsConfig : ClientStage → Option ℕ
  | .configuring tlsConfig _ => some tlsConfig
  | .creating tlsConfig => tlsConfig
  | .connecting _ tlsConfig => tlsConfig
  | .refused _ tlsConfig _ => some tlsConfig
  | .notConfigured tlsConfig _ => some tlsConfig
  | .opened _ tlsConfig true => tlsConfig
  | _ => none

/-- A connection in use, with the TLS configuration that it was created with. -/
def ClientStage.linked : ClientStage → Option (ℕ × Option ℕ)
  | .connecting conn tlsConfig => some (conn, tlsConfig)
  | .opened conn tlsConfig true => some (conn, tlsConfig)
  | _ => none

theorem ClientStage.connection_of_linked {stage : ClientStage} {conn : ℕ} {tlsConfig : Option ℕ}
    (h : stage.linked = some (conn, tlsConfig)) :
    stage.connection = some conn ∧ stage.tlsConfig = tlsConfig := by
  cases stage with
  | connecting conn' tlsConfig' =>
      obtain ⟨rfl, rfl⟩ := Prod.mk.inj (Option.some.inj h)
      exact ⟨rfl, rfl⟩
  | opened conn' tlsConfig' connected =>
      cases connected with
      | true =>
          obtain ⟨rfl, rfl⟩ := Prod.mk.inj (Option.some.inj h)
          exact ⟨rfl, rfl⟩
      | false => cases h
  | configuring tlsConfig' calls => cases h
  | creating tlsConfig' => cases h
  | refused conn' tlsConfig' err => cases h
  | notConfigured tlsConfig' err => cases h
  | notConnected conn' err => cases h

def Closing.connection : Closing → Option ℕ
  | .destroyConnection conn _ => some conn
  | .destroyTlsConfig _ => none

def Closing.tlsConfig : Closing → Option ℕ
  | .destroyConnection _ tlsConfig => tlsConfig
  | .destroyTlsConfig tlsConfig => some tlsConfig

namespace Lifetimes

def connectionOf (s : Lifetimes) : LifetimeHolder → Option ℕ
  | .client c => (s.attempts c).bind fun attempt => attempt.stage.connection
  | .goroutine g => (s.closing g).bind Closing.connection

def tlsConfigOf (s : Lifetimes) : LifetimeHolder → Option ℕ
  | .client c => (s.attempts c).bind fun attempt => attempt.stage.tlsConfig
  | .goroutine g => (s.closing g).bind Closing.tlsConfig

variable {s s' : Lifetimes} {c g : ℕ} {settings : Settings} {stage : ClientStage}

theorem connectionOf_client (hattempt : s.attempts c = some ⟨settings, stage⟩) :
    s.connectionOf (.client c) = stage.connection := by
  simp [connectionOf, hattempt]

theorem tlsConfigOf_client (hattempt : s.attempts c = some ⟨settings, stage⟩) :
    s.tlsConfigOf (.client c) = stage.tlsConfig := by
  simp [tlsConfigOf, hattempt]

theorem connectionOf_setStage (s : Lifetimes) (c : ℕ) (settings : Settings)
    (stage : ClientStage) :
    (s.setStage c settings stage).connectionOf =
      Function.update s.connectionOf (.client c) stage.connection := by
  funext h
  cases h with
  | client c' =>
      by_cases hc : c' = c
      · subst hc
        simp [connectionOf, setStage]
      · simp [connectionOf, setStage, hc]
  | goroutine g => simp [connectionOf, setStage]

theorem tlsConfigOf_setStage (s : Lifetimes) (c : ℕ) (settings : Settings)
    (stage : ClientStage) :
    (s.setStage c settings stage).tlsConfigOf =
      Function.update s.tlsConfigOf (.client c) stage.tlsConfig := by
  funext h
  cases h with
  | client c' =>
      by_cases hc : c' = c
      · subst hc
        simp [tlsConfigOf, setStage]
      · simp [tlsConfigOf, setStage, hc]
  | goroutine g => simp [tlsConfigOf, setStage]

theorem connectionOf_setClosing (s : Lifetimes) (g : ℕ) (closing : Option Closing) :
    (s.setClosing g closing).connectionOf =
      Function.update s.connectionOf (.goroutine g) (closing.bind Closing.connection) := by
  funext h
  cases h with
  | client c => simp [connectionOf, setClosing]
  | goroutine g' =>
      by_cases hg : g' = g
      · subst hg
        simp [connectionOf, setClosing]
      · simp [connectionOf, setClosing, hg]

theorem tlsConfigOf_setClosing (s : Lifetimes) (g : ℕ) (closing : Option Closing) :
    (s.setClosing g closing).tlsConfigOf =
      Function.update s.tlsConfigOf (.goroutine g) (closing.bind Closing.tlsConfig) := by
  funext h
  cases h with
  | client c => simp [tlsConfigOf, setClosing]
  | goroutine g' =>
      by_cases hg : g' = g
      · subst hg
        simp [tlsConfigOf, setClosing]
      · simp [tlsConfigOf, setClosing, hg]

theorem connectionOf_setStage_of_eq {old : ConnectAttempt} (hold : s.attempts c = some old)
    (hsame : stage.connection = old.stage.connection) :
    (s.setStage c settings stage).connectionOf = s.connectionOf := by
  have hheld : s.connectionOf (.client c) = old.stage.connection := by simp [connectionOf, hold]
  rw [connectionOf_setStage, hsame, ← hheld, Function.update_eq_self]

theorem tlsConfigOf_setStage_of_eq {old : ConnectAttempt} (hold : s.attempts c = some old)
    (hsame : stage.tlsConfig = old.stage.tlsConfig) :
    (s.setStage c settings stage).tlsConfigOf = s.tlsConfigOf := by
  have hheld : s.tlsConfigOf (.client c) = old.stage.tlsConfig := by simp [tlsConfigOf, hold]
  rw [tlsConfigOf_setStage, hsame, ← hheld, Function.update_eq_self]

theorem connectionOf_setClosing_of_eq (closing : Option Closing)
    (hsame : closing.bind Closing.connection = s.connectionOf (.goroutine g)) :
    (s.setClosing g closing).connectionOf = s.connectionOf := by
  rw [connectionOf_setClosing, hsame, Function.update_eq_self]

theorem tlsConfigOf_setClosing_of_eq (closing : Option Closing)
    (hsame : closing.bind Closing.tlsConfig = s.tlsConfigOf (.goroutine g)) :
    (s.setClosing g closing).tlsConfigOf = s.tlsConfigOf := by
  rw [tlsConfigOf_setClosing, hsame, Function.update_eq_self]

/-- Everything made for clients has one holder until it is destroyed. -/
structure Accounted (s : Lifetimes) : Prop where
  connections : Owned s.connections s.connectionOf
  tlsConfigs : Owned s.tlsConfigs s.tlsConfigOf

theorem accounted_empty : Accounted {} := by
  have hconnection : ({} : Lifetimes).connectionOf = fun _ => none := by
    funext h
    cases h <;> rfl
  have htlsConfig : ({} : Lifetimes).tlsConfigOf = fun _ => none := by
    funext h
    cases h <;> rfl
  constructor
  · rw [hconnection]
    exact owned_empty
  · rw [htlsConfig]
    exact owned_empty

theorem accounted_newClient (hs : Accounted s) (hnew : s.attempts c = none)
    (tlsConfig : Option TLSConfig) : Accounted (s.newClient c settings tlsConfig) := by
  have hconnection : s.connectionOf (.client c) = none := by simp [connectionOf, hnew]
  have htlsConfig : s.tlsConfigOf (.client c) = none := by simp [tlsConfigOf, hnew]
  have hkept : ∀ stage : ClientStage, stage.connection = none →
      (s.setStage c settings stage).connectionOf = s.connectionOf := by
    intro stage hstage
    rw [connectionOf_setStage, hstage, ← hconnection, Function.update_eq_self]
  cases tlsConfig with
  | none =>
      constructor
      · show Owned s.connections (s.setStage c settings (.creating none)).connectionOf
        rw [hkept _ rfl]
        exact hs.connections
      · show Owned s.tlsConfigs (s.setStage c settings (.creating none)).tlsConfigOf
        rw [tlsConfigOf_setStage]
        show Owned s.tlsConfigs (Function.update s.tlsConfigOf (.client c) none)
        rw [← htlsConfig, Function.update_eq_self]
        exact hs.tlsConfigs
  | some tlsConfig =>
      constructor
      · show Owned s.connections
          (s.setStage c settings (.configuring s.tlsConfigs.next tlsConfig.calls)).connectionOf
        rw [hkept _ rfl]
        exact hs.connections
      · show Owned (s.tlsConfigs.make ())
          (s.setStage c settings (.configuring s.tlsConfigs.next tlsConfig.calls)).tlsConfigOf
        rw [tlsConfigOf_setStage]
        exact hs.tlsConfigs.make () htlsConfig

/-- A stage that holds what the one before held. -/
theorem accounted_setStage (hs : Accounted s) {old : ConnectAttempt}
    (hold : s.attempts c = some old) (hconnection : stage.connection = old.stage.connection)
    (htlsConfig : stage.tlsConfig = old.stage.tlsConfig) :
    Accounted (s.setStage c settings stage) := by
  constructor
  · rw [connectionOf_setStage_of_eq hold hconnection]
    exact hs.connections
  · rw [tlsConfigOf_setStage_of_eq hold htlsConfig]
    exact hs.tlsConfigs

/-- Using what is held changes nothing. -/
theorem useTls_eq (hs : Accounted s) {h : LifetimeHolder} {tlsConfig : Option ℕ}
    (hheld : s.tlsConfigOf h = tlsConfig) : useTls s.tlsConfigs tlsConfig = s.tlsConfigs := by
  cases tlsConfig with
  | none => rfl
  | some n => exact hs.tlsConfigs.use_eq hheld

theorem useConnection_eq (hs : Accounted s) {h : LifetimeHolder} {conn : ℕ}
    {tlsConfig : Option ℕ} (hconnection : s.connectionOf h = some conn)
    (htlsConfig : s.tlsConfigOf h = tlsConfig) : s.useConnection conn tlsConfig = s := by
  rw [useConnection, hs.connections.use_eq hconnection, useTls_eq hs htlsConfig]

theorem useConnection_opened (hs : Accounted s) {conn : ℕ} {tlsConfig : Option ℕ}
    (hattempt : s.attempts c = some ⟨settings, .opened conn tlsConfig true⟩) :
    s.useConnection conn tlsConfig = s :=
  useConnection_eq hs (connectionOf_client hattempt) (tlsConfigOf_client hattempt)

/-- What a call of `newClient` may do: it goes on with what it holds, it creates the
connection, or it destroys the TLS configuration. -/
inductive ConnectStep (s : Lifetimes) (c : ℕ) (settings : Settings) (stage : ClientStage) :
    Lifetimes → Prop
  | went (stage' : ClientStage) (hconnection : stage'.connection = stage.connection)
      (htlsConfig : stage'.tlsConfig = stage.tlsConfig)
      (hlinked : stage'.linked = none ∨ stage'.linked = stage.linked) :
      ConnectStep s c settings stage (s.setStage c settings stage')
  | created (tlsConfig : Option ℕ) (hstage : stage = .creating tlsConfig) :
      ConnectStep s c settings stage
        { s.setStage c settings (.connecting s.connections.next tlsConfig) with
          connections := s.connections.make (settings.connection tlsConfig) }
  | destroyed (conn tlsConfig : ℕ) (err : IedError) (hstage : stage = .refused conn tlsConfig err) :
      ConnectStep s c settings stage
        { s.setStage c settings (.notConnected conn err) with
          tlsConfigs := s.tlsConfigs.release tlsConfig }

theorem connectStep_of_connect (hs : Accounted s)
    (hattempt : s.attempts c = some ⟨settings, stage⟩) {reply : ℤ}
    (hconnect : s.connect c settings reply stage = some s') :
    ConnectStep s c settings stage s' := by
  have hconnections := connectionOf_client hattempt
  have htlsConfigs := tlsConfigOf_client hattempt
  cases stage with
  | configuring tlsConfig calls =>
      cases calls with
      | nil =>
          obtain rfl := Option.some.inj hconnect
          exact .went _ rfl rfl (.inl rfl)
      | cons call calls =>
          simp only [connect, hs.tlsConfigs.use_eq htlsConfigs] at hconnect
          split at hconnect
          next err =>
            split at hconnect
            next =>
              obtain rfl := Option.some.inj hconnect
              exact .went _ rfl rfl (.inl rfl)
            next =>
              obtain rfl := Option.some.inj hconnect
              exact .went _ rfl rfl (.inl rfl)
          next =>
            obtain rfl := Option.some.inj hconnect
            exact .went _ rfl rfl (.inl rfl)
  | creating tlsConfig =>
      have hused : useTls s.tlsConfigs tlsConfig = s.tlsConfigs := useTls_eq hs htlsConfigs
      simp only [connect, hused] at hconnect
      obtain rfl := Option.some.inj hconnect
      exact .created tlsConfig rfl
  | connecting conn tlsConfig =>
      have hused : s.useConnection conn tlsConfig = s :=
        useConnection_eq hs hconnections htlsConfigs
      simp only [connect, hused] at hconnect
      split at hconnect
      next =>
        obtain rfl := Option.some.inj hconnect
        exact .went _ rfl rfl (.inr rfl)
      next =>
        obtain rfl := Option.some.inj hconnect
        exact .went _ rfl rfl (.inl rfl)
      next =>
        obtain rfl := Option.some.inj hconnect
        exact .went _ rfl rfl (.inl rfl)
  | refused conn tlsConfig err =>
      obtain rfl := Option.some.inj hconnect
      exact .destroyed conn tlsConfig err rfl
  | notConfigured tlsConfig err => cases hconnect
  | notConnected conn err => cases hconnect
  | opened conn tlsConfig connected => cases hconnect

theorem accounted_connect (hs : Accounted s)
    (hattempt : s.attempts c = some ⟨settings, stage⟩)
    (hstep : ConnectStep s c settings stage s') : Accounted s' := by
  have hconnections := connectionOf_client hattempt
  have htlsConfigs := tlsConfigOf_client hattempt
  cases hstep with
  | went stage' hconnection htlsConfig hlinked =>
      exact accounted_setStage hs hattempt hconnection htlsConfig
  | created tlsConfig hstage =>
      rw [hstage] at hconnections htlsConfigs
      constructor
      · show Owned (s.connections.make (settings.connection tlsConfig))
          (s.setStage c settings (.connecting s.connections.next tlsConfig)).connectionOf
        rw [connectionOf_setStage]
        exact hs.connections.make _ hconnections
      · show Owned s.tlsConfigs
          (s.setStage c settings (.connecting s.connections.next tlsConfig)).tlsConfigOf
        rw [tlsConfigOf_setStage_of_eq hattempt (by rw [hstage]; rfl)]
        exact hs.tlsConfigs
  | destroyed conn tlsConfig err hstage =>
      rw [hstage] at htlsConfigs
      constructor
      · show Owned s.connections (s.setStage c settings (.notConnected conn err)).connectionOf
        rw [connectionOf_setStage_of_eq hattempt (by rw [hstage]; rfl)]
        exact hs.connections
      · show Owned (s.tlsConfigs.release tlsConfig)
          (s.setStage c settings (.notConnected conn err)).tlsConfigOf
        rw [tlsConfigOf_setStage]
        exact hs.tlsConfigs.release htlsConfigs

/-- One goroutine takes what the client held; for the others there is nothing to close. -/
theorem close_cases (hclose : s.close g c settings stage = some s') :
    s' = s ∨ ∃ conn tlsConfig, stage = .opened conn tlsConfig true ∧
      s' = (s.setStage c settings (.opened conn tlsConfig false)).setClosing g
        (some (.destroyConnection conn tlsConfig)) := by
  cases stage with
  | opened conn tlsConfig connected =>
      cases connected with
      | false => exact .inl (Option.some.inj hclose).symm
      | true => exact .inr ⟨conn, tlsConfig, rfl, (Option.some.inj hclose).symm⟩
  | configuring tlsConfig calls => cases hclose
  | creating tlsConfig => cases hclose
  | connecting conn tlsConfig => cases hclose
  | refused conn tlsConfig err => cases hclose
  | notConfigured tlsConfig err => cases hclose
  | notConnected conn err => cases hclose

theorem accounted_close (hs : Accounted s) (hattempt : s.attempts c = some ⟨settings, stage⟩)
    (hidle : s.closing g = none) (hclose : s.close g c settings stage = some s') :
    Accounted s' := by
  have hconnections := connectionOf_client hattempt
  have htlsConfigs := tlsConfigOf_client hattempt
  have hfree : s.connectionOf (.goroutine g) = none := by simp [connectionOf, hidle]
  have htlsFree : s.tlsConfigOf (.goroutine g) = none := by simp [tlsConfigOf, hidle]
  rcases close_cases hclose with rfl | ⟨conn, tlsConfig, rfl, rfl⟩
  · exact hs
  · constructor
    · rw [connectionOf_setClosing, connectionOf_setStage]
      have hmoved := hs.connections.move (.client c) hfree
      rw [hconnections] at hmoved
      exact hmoved
    · rw [tlsConfigOf_setClosing, tlsConfigOf_setStage]
      have hmoved := hs.tlsConfigs.move (.client c) htlsFree
      rw [htlsConfigs] at hmoved
      exact hmoved

theorem accounted_destroy (hs : Accounted s) {closing : Closing}
    (hclosing : s.closing g = some closing) : Accounted (s.destroy g closing) := by
  have hconnections : s.connectionOf (.goroutine g) = closing.connection := by
    simp [connectionOf, hclosing]
  have htlsConfigs : s.tlsConfigOf (.goroutine g) = closing.tlsConfig := by
    simp [tlsConfigOf, hclosing]
  cases closing with
  | destroyConnection conn tlsConfig =>
      cases tlsConfig with
      | none =>
          constructor
          · show Owned (s.connections.release conn) (s.setClosing g none).connectionOf
            rw [connectionOf_setClosing]
            exact hs.connections.release hconnections
          · show Owned s.tlsConfigs (s.setClosing g none).tlsConfigOf
            rw [tlsConfigOf_setClosing_of_eq none htlsConfigs.symm]
            exact hs.tlsConfigs
      | some tlsConfig =>
          have hsome : s.tlsConfigOf (.goroutine g) = some tlsConfig := htlsConfigs
          constructor
          · show Owned (s.connections.release conn)
              (s.setClosing g (some (.destroyTlsConfig tlsConfig))).connectionOf
            rw [connectionOf_setClosing]
            exact hs.connections.release hconnections
          · show Owned (s.tlsConfigs.use tlsConfig)
              (s.setClosing g (some (.destroyTlsConfig tlsConfig))).tlsConfigOf
            rw [hs.tlsConfigs.use_eq hsome,
              tlsConfigOf_setClosing_of_eq (some (.destroyTlsConfig tlsConfig)) hsome.symm]
            exact hs.tlsConfigs
  | destroyTlsConfig tlsConfig =>
      constructor
      · show Owned s.connections (s.setClosing g none).connectionOf
        rw [connectionOf_setClosing_of_eq none hconnections.symm]
        exact hs.connections
      · show Owned (s.tlsConfigs.release tlsConfig) (s.setClosing g none).tlsConfigOf
        rw [tlsConfigOf_setClosing]
        exact hs.tlsConfigs.release htlsConfigs

/-! ## What the connections were created with -/

/-- The connection of an open client has its TLS configuration and its timeouts. -/
def Linked (s : Lifetimes) : Prop :=
  ∀ c settings stage conn tlsConfig, s.attempts c = some ⟨settings, stage⟩ →
    stage.linked = some (conn, tlsConfig) →
    s.connections.contents conn = some (settings.connection tlsConfig)

theorem linked_empty : Linked {} := by
  intro c settings stage conn tlsConfig hattempt
  cases hattempt

theorem linked_setStage (hs : Linked s)
    (hstage : ∀ conn tlsConfig, stage.linked = some (conn, tlsConfig) →
      s.connections.contents conn = some (settings.connection tlsConfig)) :
    Linked (s.setStage c settings stage) := by
  intro c' settings' stage' conn tlsConfig hattempt hlinked
  by_cases hc : c' = c
  · subst hc
    simp only [setStage, Function.update_self, Option.some.injEq,
      ConnectAttempt.mk.injEq] at hattempt
    obtain ⟨rfl, rfl⟩ := hattempt
    exact hstage conn tlsConfig hlinked
  · simp only [setStage, Function.update_of_ne hc] at hattempt
    exact hs c' settings' stage' conn tlsConfig hattempt hlinked

theorem linked_setStage_none (hs : Linked s) (hstage : stage.linked = none) :
    Linked (s.setStage c settings stage) := by
  apply linked_setStage hs
  intro conn tlsConfig hlinked
  rw [hstage] at hlinked
  cases hlinked

theorem linked_connect (hs : Accounted s) (hlinks : Linked s)
    (hattempt : s.attempts c = some ⟨settings, stage⟩)
    (hstep : ConnectStep s c settings stage s') : Linked s' := by
  cases hstep with
  | went stage' hconnection htlsConfig hlinked =>
      rcases hlinked with hnone | hsame
      · exact linked_setStage_none hlinks hnone
      · apply linked_setStage hlinks
        intro conn' tlsConfig hlinked
        exact hlinks c settings stage conn' tlsConfig hattempt (hsame ▸ hlinked)
  | created tlsConfig hstage =>
      have hmake : ∀ conn value, s.connections.contents conn = some value →
          (s.connections.make (settings.connection tlsConfig)).contents conn = some value := by
        intro conn value hvalue
        have hne : conn ≠ s.connections.next := by
          intro hnext
          have hfresh := (hs.connections.fresh s.connections.next (Nat.lt_succ_self _)).1
          rw [hnext, hfresh] at hvalue
          cases hvalue
        simp only [Store.make, Function.update_of_ne hne]
        exact hvalue
      have hothers : Linked { s with
          connections := s.connections.make (settings.connection tlsConfig) } :=
        fun c' settings' stage' conn tls hattempt' hlinked =>
          hmake _ _ (hlinks c' settings' stage' conn tls hattempt' hlinked)
      apply linked_setStage hothers
      intro conn tls hlinked
      obtain ⟨rfl, rfl⟩ := Prod.mk.inj (Option.some.inj hlinked)
      exact Function.update_self ..
  | destroyed conn tlsConfig err hstage =>
      exact linked_setStage_none (s := { s with tlsConfigs := s.tlsConfigs.release tlsConfig })
        hlinks rfl

theorem linked_close (hlinks : Linked s) (hclose : s.close g c settings stage = some s') :
    Linked s' := by
  rcases close_cases hclose with rfl | ⟨conn, tlsConfig, rfl, rfl⟩
  · exact hlinks
  · have hclosed : Linked (s.setStage c settings (.opened conn tlsConfig false)) :=
      linked_setStage_none hlinks rfl
    exact hclosed

/-- What a goroutine destroys belongs to no client that is still open. -/
theorem linked_destroy (hs : Accounted s) (hlinks : Linked s) {closing : Closing}
    (hclosing : s.closing g = some closing) : Linked (s.destroy g closing) := by
  have hreleased : ∀ conn, closing.connection = some conn → Linked { s with
      connections := s.connections.release conn } := by
    intro conn hconn c settings stage conn' tlsConfig hattempt hlinked
    have hgoroutine : s.connectionOf (.goroutine g) = some conn := by
      simp [connectionOf, hclosing, hconn]
    have hclient : s.connectionOf (.client c) = some conn' :=
      (connectionOf_client hattempt).trans (ClientStage.connection_of_linked hlinked).1
    have hne : conn' ≠ conn := by
      intro hsame
      rw [hsame] at hclient
      cases hs.connections.unique _ _ _ hclient hgoroutine
    simp only [Store.release, Function.update_of_ne hne]
    exact hlinks c settings stage conn' tlsConfig hattempt hlinked
  cases closing with
  | destroyConnection conn tlsConfig =>
      cases tlsConfig with
      | none => exact hreleased conn rfl
      | some tlsConfig => exact hreleased conn rfl
  | destroyTlsConfig tlsConfig => exact hlinks

/-! ## Requests in progress -/

/-- A request works with the connection of an open client, and its TLS configuration. -/
def Served (s : Lifetimes) : Prop :=
  ∀ g request, s.requests g = some request → ∃ c settings,
    s.attempts c = some ⟨settings, .opened request.conn request.tlsConfig true⟩

theorem served_empty : Served {} := by
  intro g request hrequest
  cases hrequest

/-- A client that is not open serves no request. -/
theorem served_setStage (hserved : Served s) (hclosed : ∀ settings conn tlsConfig,
    s.attempts c ≠ some ⟨settings, .opened conn tlsConfig true⟩) :
    Served (s.setStage c settings stage) := by
  intro g request hrequest
  obtain ⟨c', settings', hattempt⟩ := hserved g request hrequest
  have hne : c' ≠ c := by
    rintro rfl
    exact hclosed _ _ _ hattempt
  exact ⟨c', settings', by simp only [setStage, Function.update_of_ne hne, hattempt]⟩

theorem served_connect (hserved : Served s) (hattempt : s.attempts c = some ⟨settings, stage⟩)
    {reply : ℤ} (hconnect : s.connect c settings reply stage = some s')
    (hstep : ConnectStep s c settings stage s') : Served s' := by
  have hclosed : ∀ settings conn tlsConfig,
      s.attempts c ≠ some ⟨settings, .opened conn tlsConfig true⟩ := by
    intro settings' conn tlsConfig hopened
    rw [hattempt] at hopened
    obtain ⟨-, rfl⟩ := ConnectAttempt.mk.inj (Option.some.inj hopened)
    cases hconnect
  cases hstep with
  | went stage' hconnection htlsConfig hlinked => exact served_setStage hserved hclosed
  | created tlsConfig hstage => exact served_setStage hserved hclosed
  | destroyed conn tlsConfig err hstage => exact served_setStage hserved hclosed

/-- Nothing works with the connection of a client that is being closed. -/
theorem served_close (hserved : Served s) (hattempt : s.attempts c = some ⟨settings, stage⟩)
    (hfree : ∀ settings conn tlsConfig,
      s.attempts c = some ⟨settings, .opened conn tlsConfig true⟩ →
      ∀ g request, s.requests g = some request → request.conn ≠ conn)
    (hclose : s.close g c settings stage = some s') : Served s' := by
  rcases close_cases hclose with rfl | ⟨conn, tlsConfig, rfl, rfl⟩
  · exact hserved
  · intro g' request hrequest
    obtain ⟨c', settings', hopened⟩ := hserved g' request hrequest
    have hne : c' ≠ c := by
      rintro rfl
      exact hfree _ _ _ hopened g' request hrequest rfl
    refine ⟨c', settings', ?_⟩
    simp only [setClosing, setStage, Function.update_of_ne hne, hopened]

theorem served_destroy (hserved : Served s) {closing : Closing} :
    Served (s.destroy g closing) := by
  cases closing with
  | destroyConnection conn tlsConfig =>
      cases tlsConfig with
      | none => exact hserved
      | some tlsConfig => exact hserved
  | destroyTlsConfig tlsConfig => exact hserved

theorem served_request (hserved : Served s) {conn : ℕ} {tlsConfig : Option ℕ}
    (hattempt : s.attempts c = some ⟨settings, .opened conn tlsConfig true⟩) :
    Served (s.setRequest g (some ⟨conn, tlsConfig⟩)) := by
  intro g' request hrequest
  by_cases hg : g' = g
  · subst hg
    simp only [setRequest, Function.update_self] at hrequest
    obtain rfl := Option.some.inj hrequest
    exact ⟨c, settings, hattempt⟩
  · simp only [setRequest, Function.update_of_ne hg] at hrequest
    exact hserved g' request hrequest

theorem served_answer (hserved : Served s) : Served (s.setRequest g none) := by
  intro g' request hrequest
  by_cases hg : g' = g
  · subst hg
    simp [setRequest] at hrequest
  · simp only [setRequest, Function.update_of_ne hg] at hrequest
    exact hserved g' request hrequest

/-! ## Runs -/

/-- A request is called on a client that has not been closed, and `Close` while no request
of the client is in progress. -/
def Allowed (s : Lifetimes) : LifetimeAction → Prop
  | .request _ c => ∃ settings conn tlsConfig,
      s.attempts c = some ⟨settings, .opened conn tlsConfig true⟩
  | .close _ c => ∀ settings conn tlsConfig,
      s.attempts c = some ⟨settings, .opened conn tlsConfig true⟩ →
      ∀ g request, s.requests g = some request → request.conn ≠ conn
  | _ => True

structure Kept (s : Lifetimes) : Prop where
  accounted : Accounted s
  linked : Linked s
  served : Served s

theorem kept_step {action : LifetimeAction} (hs : Kept s) (hallowed : s.Allowed action)
    (hstep : s.step action = some s') : Kept s' := by
  obtain ⟨haccounted, hlinks, hserved⟩ := hs
  cases action with
  | newClient c settings tlsConfig =>
      simp only [step] at hstep
      split at hstep
      next hnew =>
        obtain rfl := Option.some.inj hstep
        refine ⟨accounted_newClient haccounted hnew tlsConfig, ?_, ?_⟩
        · cases tlsConfig with
          | none => exact linked_setStage_none hlinks rfl
          | some tlsConfig =>
              exact linked_setStage_none (s := { s with tlsConfigs := s.tlsConfigs.make () })
                hlinks rfl
        · have hnone : ∀ settings conn tlsConfig,
              s.attempts c ≠ some ⟨settings, .opened conn tlsConfig true⟩ := by simp [hnew]
          cases tlsConfig with
          | none => exact served_setStage hserved hnone
          | some tlsConfig => exact served_setStage hserved hnone
      next => cases hstep
  | connect c reply =>
      obtain ⟨⟨settings, stage⟩, hattempt, hconnect⟩ := Option.bind_eq_some_iff.mp hstep
      have hstep := connectStep_of_connect haccounted hattempt hconnect
      exact ⟨accounted_connect haccounted hattempt hstep,
        linked_connect haccounted hlinks hattempt hstep,
        served_connect hserved hattempt hconnect hstep⟩
  | close g c =>
      simp only [step] at hstep
      split at hstep
      next hidle hfree =>
        obtain ⟨⟨settings, stage⟩, hattempt, hclose⟩ := Option.bind_eq_some_iff.mp hstep
        exact ⟨accounted_close haccounted hattempt hidle hclose, linked_close hlinks hclose,
          served_close hserved hattempt hallowed hclose⟩
      next => cases hstep
  | destroy g =>
      obtain ⟨closing, hclosing, rfl⟩ := Option.map_eq_some_iff.mp hstep
      exact ⟨accounted_destroy haccounted hclosing, linked_destroy haccounted hlinks hclosing,
        served_destroy hserved⟩
  | request g c =>
      obtain ⟨settings, conn, tlsConfig, hattempt⟩ := hallowed
      simp only [step] at hstep
      split at hstep
      next =>
        rw [hattempt, Option.bind_some] at hstep
        obtain rfl := Option.some.inj hstep
        rw [useConnection_opened haccounted hattempt]
        exact ⟨⟨haccounted.connections, haccounted.tlsConfigs⟩, hlinks,
          served_request hserved hattempt⟩
      next => cases hstep
  | answer g =>
      obtain ⟨request, hrequest, rfl⟩ := Option.map_eq_some_iff.mp hstep
      obtain ⟨c, settings, hattempt⟩ := hserved g request hrequest
      rw [answer, useConnection_opened haccounted hattempt]
      exact ⟨⟨haccounted.connections, haccounted.tlsConfigs⟩, hlinks, served_answer hserved⟩

/-- Every call of `newClient` has returned, and no goroutine is in `Close`. -/
structure Quiet (s : Lifetimes) : Prop where
  returned : ∀ c settings stage, s.attempts c = some ⟨settings, stage⟩ →
    (∃ tlsConfig err, stage = .notConfigured tlsConfig err) ∨
      (∃ conn err, stage = .notConnected conn err) ∨
      ∃ conn tlsConfig connected, stage = .opened conn tlsConfig connected
  closed : ∀ g, s.closing g = none

/-- What is true of the connections and the TLS configurations at any time. -/
structure InOrder (s : Lifetimes) : Prop where
  unmisused : s.connections.misused = false ∧ s.tlsConfigs.misused = false
  once : ∀ n, 0 < n → s.connections.releases n ≤ 1 ∧ s.tlsConfigs.releases n ≤ 1
  /-- An open client has its connection, and its TLS configuration. -/
  opened : ∀ c settings conn tlsConfig,
    s.attempts c = some ⟨settings, .opened conn tlsConfig true⟩ →
      s.connections.contents conn = some (settings.connection tlsConfig) ∧
      ∀ n ∈ tlsConfig, s.tlsConfigs.contents n = some ()
  /-- And so has a request in progress. -/
  inProgress : ∀ g request, s.requests g = some request → ∃ settings : Settings,
    s.connections.contents request.conn = some (settings.connection request.tlsConfig) ∧
    ∀ n ∈ request.tlsConfig, s.tlsConfigs.contents n = some ()
  /-- What is left belongs to open clients, or to calls of `newClient` that failed: the
  connection that could not be connected, the configuration that could not be filled. -/
  connectionsLeft : s.Quiet → ∀ n, 0 < n → ((s.connections.contents n).isSome ↔
    ∃ c settings, (∃ tlsConfig, s.attempts c = some ⟨settings, .opened n tlsConfig true⟩) ∨
      ∃ err, s.attempts c = some ⟨settings, .notConnected n err⟩)
  tlsConfigsLeft : s.Quiet → ∀ n, 0 < n → ((s.tlsConfigs.contents n).isSome ↔
    ∃ c settings, (∃ conn, s.attempts c = some ⟨settings, .opened conn (some n) true⟩) ∨
      ∃ err, s.attempts c = some ⟨settings, .notConfigured n err⟩)

theorem holder_of_quiet (hquiet : s.Quiet) {n : ℕ} :
    (∃ h, s.connectionOf h = some n) ↔
      ∃ c settings, (∃ tlsConfig, s.attempts c = some ⟨settings, .opened n tlsConfig true⟩) ∨
        ∃ err, s.attempts c = some ⟨settings, .notConnected n err⟩ := by
  constructor
  · rintro ⟨h, hheld⟩
    cases h with
    | client c =>
        obtain ⟨⟨settings, stage⟩, hattempt, hstage⟩ := Option.bind_eq_some_iff.mp hheld
        refine ⟨c, settings, ?_⟩
        rcases hquiet.returned c settings stage hattempt with
          ⟨tlsConfig, err, rfl⟩ | ⟨conn, err, rfl⟩ | ⟨conn, tlsConfig, connected, rfl⟩
        · cases hstage
        · obtain rfl := Option.some.inj hstage
          exact .inr ⟨err, hattempt⟩
        · cases connected with
          | false => cases hstage
          | true =>
              obtain rfl := Option.some.inj hstage
              exact .inl ⟨tlsConfig, hattempt⟩
    | goroutine g =>
        rw [connectionOf, hquiet.closed g] at hheld
        cases hheld
  · rintro ⟨c, settings, ⟨tlsConfig, hattempt⟩ | ⟨err, hattempt⟩⟩
    · exact ⟨.client c, connectionOf_client hattempt⟩
    · exact ⟨.client c, connectionOf_client hattempt⟩

theorem tlsHolder_of_quiet (hquiet : s.Quiet) {n : ℕ} :
    (∃ h, s.tlsConfigOf h = some n) ↔
      ∃ c settings, (∃ conn, s.attempts c = some ⟨settings, .opened conn (some n) true⟩) ∨
        ∃ err, s.attempts c = some ⟨settings, .notConfigured n err⟩ := by
  constructor
  · rintro ⟨h, hheld⟩
    cases h with
    | client c =>
        obtain ⟨⟨settings, stage⟩, hattempt, hstage⟩ := Option.bind_eq_some_iff.mp hheld
        refine ⟨c, settings, ?_⟩
        rcases hquiet.returned c settings stage hattempt with
          ⟨tlsConfig, err, rfl⟩ | ⟨conn, err, rfl⟩ | ⟨conn, tlsConfig, connected, rfl⟩
        · obtain rfl := Option.some.inj hstage
          exact .inr ⟨err, hattempt⟩
        · cases hstage
        · cases connected with
          | false => cases hstage
          | true =>
              have hsome : tlsConfig = some n := hstage
              subst hsome
              exact .inl ⟨conn, hattempt⟩
    | goroutine g =>
        rw [tlsConfigOf, hquiet.closed g] at hheld
        cases hheld
  · rintro ⟨c, settings, ⟨conn, hattempt⟩ | ⟨err, hattempt⟩⟩
    · exact ⟨.client c, tlsConfigOf_client hattempt⟩
    · exact ⟨.client c, tlsConfigOf_client hattempt⟩

/-- What an open client has is there. -/
theorem contents_of_opened (hs : Kept s) {conn : ℕ} {tlsConfig : Option ℕ}
    (hattempt : s.attempts c = some ⟨settings, .opened conn tlsConfig true⟩) :
    s.connections.contents conn = some (settings.connection tlsConfig) ∧
      ∀ n ∈ tlsConfig, s.tlsConfigs.contents n = some () := by
  refine ⟨hs.linked c settings _ conn tlsConfig hattempt rfl, fun n hn => ?_⟩
  have hheld : s.tlsConfigOf (.client c) = some n := (tlsConfigOf_client hattempt).trans hn
  obtain ⟨-, value, hholds⟩ := hs.accounted.tlsConfigs.held _ n hheld
  exact hholds.contents

theorem inOrder_of_kept (hs : Kept s) : InOrder s := by
  have haccounted := hs.accounted
  constructor
  · exact ⟨haccounted.connections.unmisused, haccounted.tlsConfigs.unmisused⟩
  · intro n hpos
    exact ⟨haccounted.connections.releases_le hpos, haccounted.tlsConfigs.releases_le hpos⟩
  · intro c settings conn tlsConfig hattempt
    exact contents_of_opened hs hattempt
  · intro g request hrequest
    obtain ⟨c, settings, hattempt⟩ := hs.served g request hrequest
    exact ⟨settings, contents_of_opened hs hattempt⟩
  · intro hquiet n hpos
    exact (haccounted.connections.contents_isSome_iff hpos).trans (holder_of_quiet hquiet)
  · intro hquiet n hpos
    exact (haccounted.tlsConfigs.contents_isSome_iff hpos).trans (tlsHolder_of_quiet hquiet)

/-- Whatever the goroutines do and whatever the library answers, as long as no request is
called on a client that has been closed, and no client is closed during a request. -/
theorem clients_destroyed_once (hreaches : Reaches step Allowed {} s) : InOrder s := by
  have hkept : Kept s :=
    hreaches.invariant ⟨accounted_empty, linked_empty, served_empty⟩
      fun _ _ _ hs hallowed hstep => kept_step hs hallowed hstep
  exact inOrder_of_kept hkept

/-- A client with TLS is opened, used by two goroutines at once, and closed by two others. -/
def sampleLifetime : List LifetimeAction :=
  [.newClient 0 {} (some
      { keyFile := lit "client.key", keyPassword := [], certFile := lit "client.pem",
        chainValidation := true, allowOnlyKnownCertificates := false, minTlsVersion := 4,
        maxTlsVersion := 0, caCerts := [lit "root.pem"], allowedCertificates := [] })] ++
    List.replicate 9 (.connect 0 1) ++
    [.connect 0 0, .request 3 0, .request 4 0, .answer 3, .answer 4, .close 1 0, .close 2 0,
      .destroy 1, .destroy 1]

theorem clients_destroyed_once_sample :
    ∃ s, run step {} sampleLifetime = some s ∧ InOrder s ∧ s.connections.releases 1 = 1 ∧
      s.tlsConfigs.releases 1 = 1 ∧ s.closing 1 = none ∧ s.closing 2 = none := by
  have hanswered (g : ℕ) (request request' : Option InProgress) :
      Function.update (Function.update (Function.update (Function.update
        (fun _ => none) 3 request) 4 request') 3 none) 4 none g = none := by
    by_cases hfourth : g = 4
    · rw [hfourth, Function.update_self]
    by_cases hthird : g = 3
    · rw [hthird, Function.update_of_ne (by decide), Function.update_self]
    simp [hfourth, hthird]
  refine ⟨_, rfl, clients_destroyed_once (Reaches.run .start sampleLifetime ?_ rfl), rfl, rfl,
    rfl, rfl⟩
  iterate 11 refine .cons trivial rfl ?_
  iterate 2 refine .cons ⟨_, _, _, rfl⟩ rfl ?_
  iterate 2 refine .cons trivial rfl ?_
  iterate 2
    refine .cons (fun _ _ _ _ g _ hrequest => ?_) rfl ?_
    · cases (hanswered g _ _).symm.trans hrequest
  iterate 2 refine .cons trivial rfl ?_
  trivial

/-- A client that is closed during a request. -/
example : (run step {} [.newClient 0 {} none, .connect 0 0, .connect 0 0, .request 1 0,
    .close 2 0, .destroy 2, .answer 1]).map (·.connections.misused) = some true := rfl

end Lifetimes

end Iec61850.Mms
