import KwilDb.Core.Files
import KwilDb.Node.Restore

/-! # The admin service's listener and transport security

`buildJRPCAdminServer`, `tlsConfig` and `fileExists` (`src/unnamed/part_002:640-706, 763-821`):
how a node sets up the listener of its admin RPC service. The service listens on a unix socket or
on a TCP address. On a TCP address whose host is not loopback, or under an `https` URL, it uses TLS
unless `Admin.NoTLS` is set, presenting the node's admin key; without an admin password that TLS
requires client certificates, and trusts the CAs of the clients file, which `tlsConfig` reads or,
in autogen mode, creates. The file system is explicit (`FileSys`, with the failures of file reads
and writes in `FileFaults`). The Go standard library calls the code makes (`net.SplitHostPort`,
`url.Parse`, `net.ResolveIPAddr`), the key generator and the server constructor are collaborators
(`AdminDeps`). The admin key is read from `d.adminKey`; `loadTLSCertificate`, which no function of
the sources calls, is left out. -/

namespace KwilDb

/-- `fileExists`: `os.Stat` succeeds and finds no directory. -/
def fileExists (fs : FileSys) (file : String) : Bool :=
  match fs.entries file with
  | some (.file _) => true
  | _ => false

theorem contents_of_not_fileExists {fs : FileSys} {path : String}
    (h : fileExists fs path = false) : fs.contents path = [] := by
  unfold fileExists at h
  unfold FileSys.contents
  split at h <;> simp_all

/-- `tls.Certificate`: its DER certificate chain; the private key is left out. -/
structure TlsCertificate where
  chain : List Bytes
  deriving DecidableEq, Repr

/-- `tls.ClientAuthType`, with the two values the code uses. -/
inductive ClientAuthType where
  | noClientCert
  | requireAndVerifyClientCert
  deriving DecidableEq, Repr

/-- `tls.Config`, with the fields the code sets; `clientCAs` holds the DER certificates of the
`x509.CertPool`. -/
structure TlsConfig where
  certificates : List TlsCertificate
  clientAuth : ClientAuthType
  clientCAs : List Bytes
  deriving DecidableEq, Repr

/-- The options `buildJRPCAdminServer` gives `rpcserver.NewServer`. -/
inductive ServerOpt where
  /-- `rpcserver.WithTimeout`, in minutes. -/
  | timeout (minutes : Nat)
  /-- `rpcserver.WithPass`. -/
  | pass (password : String)
  /-- `rpcserver.WithTLS`. -/
  | tls (config : Option TlsConfig)
  /-- `rpcserver.WithServerInfo(&adminsvc.SpecInfo)`. -/
  | serverInfo
  deriving DecidableEq, Repr

/-- The admin server `rpcserver.NewServer` builds: its listen address and options. -/
structure AdminServer where
  addr : String
  opts : List ServerOpt
  deriving DecidableEq, Repr

/-- What `url.Parse` gives: `Hostname()`, `Port()` and `Scheme`. -/
structure ParsedURL where
  hostname : String
  port : String
  scheme : String
  deriving DecidableEq, Repr

/-- The fields of `coreDependencies` the admin setup reads. -/
structure AdminConfig where
  rootDir : String
  /-- `d.adminKey`, nil when the node has no admin TLS key. -/
  adminKey : Option TlsCertificate
  autogen : Bool
  /-- `d.cfg.Admin.ListenAddress`. -/
  listenAddress : String
  /-- `d.cfg.Admin.Pass`. -/
  pass : String
  /-- `d.cfg.Admin.NoTLS`. -/
  noTLS : Bool

/-- The calls of the admin setup that are not in the sources. -/
structure AdminDeps where
  /-- `filepath.Join`. -/
  join : String → String → String
  /-- `defaultAdminClients`, the name of the clients CA file. -/
  defaultAdminClients : String
  fileFaults : FileFaults
  /-- `transport.GenTLSKeyPair(certFile, keyFile, "local kwild CA", nil)`: the file system with the
  pair written, or its error. -/
  genTLSKeyPair : FileSys → String → String → Except Error FileSys
  /-- The certificates `x509.CertPool.AppendCertsFromPEM` decodes from PEM bytes. -/
  pemCertificates : Bytes → List Bytes
  /-- `net.SplitHostPort`: host and port, or the text of its error. -/
  splitHostPort : String → Except String (String × String)
  /-- `url.Parse`. -/
  urlParse : String → Except Error ParsedURL
  /-- `net.ResolveIPAddr("ip", host)`, then `IP.IsLoopback()`. -/
  resolveLoopback : String → Except Error Bool
  /-- `rpcserver.NewServer(addr, logger, opts...)`: its error, if any. -/
  newServer : String → List ServerOpt → Option Error

/-- `strings.Contains`. -/
def stringsContains (s substr : String) : Bool := decide (substr.toList <:+: s.toList)

/-- `strings.HasPrefix(host, "/")`: the host is the path of a unix socket. -/
def isUnixSocketPath (host : String) : Bool := ['/'].isPrefixOf host.toList

/-- `net.JoinHostPort`: a host with a colon is an IPv6 literal and goes in brackets. -/
def joinHostPort (host port : String) : String :=
  if ':' ∈ host.toList then "[" ++ host ++ "]:" ++ port else host ++ ":" ++ port

section Admin

variable (deps : AdminDeps) (errorText : Error → String)

/-- Lines 780-804 of `tlsConfig`: the PEM bytes of the client CAs. They are the clients file's;
in autogen mode, when there is no such file, those of a client certificate generated for the
purpose, which are written as the clients file; none otherwise. -/
def clientCACerts (d : AdminConfig) (fs : FileSys) : Except PanicErr (Bytes × FileSys) :=
  let clientsFile := deps.join d.rootDir deps.defaultAdminClients
  if fileExists fs clientsFile then
    match readFile deps.fileFaults fs clientsFile with
    | .error e => .error (failBuild errorText (some e) "failed to load client CAs file")
    | .ok clientsCerts => .ok (clientsCerts, fs)
  else if d.autogen then
    let clientCredsFileBase := deps.join d.rootDir "adminclient"
    let clientCertFile := clientCredsFileBase ++ ".cert"
    let clientKeyFile := clientCredsFileBase ++ ".key"
    match deps.genTLSKeyPair fs clientCertFile clientKeyFile with
    | .error e =>
      .error (failBuild errorText (some e) "failed to generate admin client credentials")
    | .ok fs =>
      match readFile deps.fileFaults fs clientCertFile with
      | .error e =>
        .error (failBuild errorText (some e) "failed to read auto-generate client certificate")
      | .ok clientsCerts =>
        match writeFile deps.fileFaults fs clientsFile clientsCerts with
        | .error e => .error (failBuild errorText (some e) "failed to write client CAs file")
        | .ok fs => .ok (clientsCerts, fs)
  else .ok ([], fs)

/-- `tlsConfig`. The error it passes to `failBuild` for an invalid clients file is nil on every
path that reaches the test: the last assignment to it is the successful read or write. -/
def tlsConfig (d : AdminConfig) (withTransportClientAuth : Bool) (fs : FileSys) :
    Except PanicErr (Option TlsConfig × FileSys) :=
  match d.adminKey with
  | none => .ok (none, fs)
  | some adminKey =>
    if !withTransportClientAuth then .ok (some ⟨[adminKey], .noClientCert, []⟩, fs)
    else
      match clientCACerts deps errorText d fs with
      | .error p => .error p
      | .ok (clientsCerts, fs) =>
        if clientsCerts.length > 0 ∧ deps.pemCertificates clientsCerts = [] then
          .error (failBuild errorText none "invalid client CAs file")
        else
          .ok (some ⟨[adminKey], .requireAndVerifyClientCert,
            if clientsCerts.length > 0 then deps.pemCertificates clientsCerts else []⟩, fs)

/-- Lines 641-659 of `buildJRPCAdminServer`: the host and port of `Admin.ListenAddress`, and
whether an `https` URL asks for TLS. -/
def adminListenTarget (addr : String) : Except PanicErr (String × String × Bool) :=
  match deps.splitHostPort addr with
  | .ok (host, port) => .ok (host, port, false)
  | .error text =>
    if stringsContains text "missing port in address" then .ok (addr, "8584", false)
    else if stringsContains text "too many colons in address" then
      match deps.urlParse addr with
      | .error e =>
        .error (failBuild errorText (some e) ("unknown admin service address " ++ addr))
      | .ok u => .ok (u.hostname, u.port, u.scheme == "https")
    else .error (failBuild errorText (some (.msg text)) ("unknown admin service address " ++ addr))

/-- Lines 667-697 of `buildJRPCAdminServer`: the listen address and the options so far, TLS added
on a TCP host that is not loopback or under `https`, unless `NoTLS` is set. -/
def adminListener (d : AdminConfig) (host port : String) (wantTLS : Bool)
    (opts : List ServerOpt) (fs : FileSys) :
    Except PanicErr (String × List ServerOpt × FileSys) :=
  if isUnixSocketPath host then
    if wantTLS then
      .error (failBuild errorText (some (.msg "unix socket with TLS is not supported")) "")
    else .ok (host, opts, fs)
  else
    let addr := joinHostPort host port
    let loopback := match deps.resolveLoopback host with
      | .error _ => false
      | .ok loopback => loopback
    if !loopback || wantTLS then
      if d.noTLS then .ok (addr, opts, fs)
      else
        match tlsConfig deps errorText d (d.pass == "") fs with
        | .error p => .error p
        | .ok (config, fs) => .ok (addr, opts ++ [.tls config], fs)
    else .ok (addr, opts, fs)

/-- `buildJRPCAdminServer`: the admin server, and the file system `tlsConfig` leaves. -/
def buildJRPCAdminServer (d : AdminConfig) (fs : FileSys) :
    Except PanicErr (AdminServer × FileSys) :=
  match adminListenTarget deps errorText d.listenAddress with
  | .error p => .error p
  | .ok (host, port, wantTLS) =>
    let opts := [ServerOpt.timeout 10] ++ if d.pass ≠ "" then [.pass d.pass] else []
    match adminListener deps errorText d host port wantTLS opts fs with
    | .error p => .error p
    | .ok (addr, opts, fs) =>
      let opts := opts ++ [.serverInfo]
      match deps.newServer addr opts with
      | some e => .error (failBuild errorText (some e) "unable to create json-rpc server")
      | none => .ok (⟨addr, opts⟩, fs)

/-- What a `clientCACerts` that returns did: read the clients file; or, in autogen mode without
one, generate the client key pair, read its certificate and write it as the clients file; or
nothing. -/
theorem clientCACerts_cases {d : AdminConfig} {fs fs' : FileSys} {certs : Bytes}
    (h : clientCACerts deps errorText d fs = .ok (certs, fs')) :
    (fileExists fs (deps.join d.rootDir deps.defaultAdminClients) = true ∧
        readFile deps.fileFaults fs (deps.join d.rootDir deps.defaultAdminClients) = .ok certs ∧
        fs' = fs) ∨
      (fileExists fs (deps.join d.rootDir deps.defaultAdminClients) = false ∧ d.autogen = true ∧
        ∃ fs₁, deps.genTLSKeyPair fs (deps.join d.rootDir "adminclient" ++ ".cert")
            (deps.join d.rootDir "adminclient" ++ ".key") = .ok fs₁ ∧
          readFile deps.fileFaults fs₁ (deps.join d.rootDir "adminclient" ++ ".cert") = .ok certs ∧
          writeFile deps.fileFaults fs₁ (deps.join d.rootDir deps.defaultAdminClients) certs =
            .ok fs') ∨
      (fileExists fs (deps.join d.rootDir deps.defaultAdminClients) = false ∧
        d.autogen = false ∧ certs = [] ∧ fs' = fs) := by
  unfold clientCACerts at h
  dsimp only at h
  split at h
  · split at h
    · cases h
    · cases h
      exact .inl ⟨‹_›, ‹_›, rfl⟩
  rename_i hnot
  replace hnot := Bool.eq_false_iff.mpr hnot
  split at h
  · split at h
    · cases h
    split at h
    · cases h
    split at h
    · cases h
    cases h
    exact .inr (.inl ⟨hnot, ‹_›, _, ‹_›, ‹_›, ‹_›⟩)
  · cases h
    exact .inr (.inr ⟨hnot, Bool.eq_false_iff.mpr ‹_›, rfl, rfl⟩)

/-- The client CA bytes `clientCACerts` returns are the clients file's contents after the call,
and the call changes the file system only in autogen mode when there is no clients file. -/
theorem clientCACerts_ok {d : AdminConfig} {fs fs' : FileSys} {certs : Bytes}
    (h : clientCACerts deps errorText d fs = .ok (certs, fs')) :
    fs'.contents (deps.join d.rootDir deps.defaultAdminClients) = certs ∧
      (fileExists fs (deps.join d.rootDir deps.defaultAdminClients) = true ∨
        d.autogen = false → fs' = fs) := by
  rcases clientCACerts_cases deps errorText h with
    ⟨-, hread, rfl⟩ | ⟨hnot, hauto, _, -, -, hwrite⟩ | ⟨hnot, -, rfl, rfl⟩
  · exact ⟨readFile_ok hread, fun _ => rfl⟩
  · refine ⟨by rw [writeFile_ok hwrite, FileSys.write_contents], ?_⟩
    rintro (h | h) <;> simp_all
  · exact ⟨contents_of_not_fileExists hnot, fun _ => rfl⟩

/-- With an admin key and client authentication, a `tlsConfig` that returns presents the key,
requires and verifies client certificates, and trusts the certificates of the clients file as it
stands after the call. -/
theorem tlsConfig_clientAuth_ok {d : AdminConfig} {fs fs' : FileSys} {config : Option TlsConfig}
    {adminKey : TlsCertificate} (hkey : d.adminKey = some adminKey)
    (h : tlsConfig deps errorText d true fs = .ok (config, fs')) :
    config = some ⟨[adminKey], .requireAndVerifyClientCert,
        let certs := fs'.contents (deps.join d.rootDir deps.defaultAdminClients)
        if certs.length > 0 then deps.pemCertificates certs else []⟩ ∧
      (fileExists fs (deps.join d.rootDir deps.defaultAdminClients) = true ∨
        d.autogen = false → fs' = fs) := by
  simp only [tlsConfig, hkey, Bool.not_true, Bool.false_eq_true, ↓reduceIte] at h
  split at h
  · cases h
  rename_i hcerts
  obtain ⟨hcontents, hsame⟩ := clientCACerts_ok deps errorText hcerts
  split at h
  · cases h
  cases h
  exact ⟨by rw [hcontents], hsame⟩

theorem tlsConfig_noClientAuth {d : AdminConfig} {fs : FileSys} {adminKey : TlsCertificate}
    (hkey : d.adminKey = some adminKey) :
    tlsConfig deps errorText d false fs = .ok (some ⟨[adminKey], .noClientCert, []⟩, fs) := by
  simp [tlsConfig, hkey]

/-- On a TCP host that is not loopback, or under `https`, and without `NoTLS`, the listener gets
the TLS configuration `tlsConfig` builds, with or without client authentication as there is no
password or one. -/
theorem adminListener_exposed {d : AdminConfig} {host port : String} {wantTLS : Bool}
    {opts opts' : List ServerOpt} {fs fs' : FileSys} {addr : String}
    (h : adminListener deps errorText d host port wantTLS opts fs = .ok (addr, opts', fs'))
    (htcp : isUnixSocketPath host = false)
    (hexposed : deps.resolveLoopback host ≠ .ok true ∨ wantTLS = true)
    (htls : d.noTLS = false) :
    addr = joinHostPort host port ∧ ∃ config,
      tlsConfig deps errorText d (d.pass == "") fs = .ok (config, fs') ∧
        opts' = opts ++ [.tls config] := by
  have hneed : (!(match deps.resolveLoopback host with
      | .error _ => false
      | .ok loopback => loopback) || wantTLS) = true := by
    rcases hexposed with hres | hwant
    · cases hloop : deps.resolveLoopback host with
      | error e => simp
      | ok loopback => cases loopback <;> simp_all
    · simp [hwant]
  simp only [adminListener, htcp, Bool.false_eq_true, ↓reduceIte, hneed, htls] at h
  split at h
  · cases h
  rename_i config fs₁ hconfig
  cases h
  exact ⟨rfl, config, hconfig, rfl⟩

/-- What the admin setup may do to the file system: nothing when the clients CA file exists or
autogen mode is off, and otherwise write at most the clients file and the client key pair
`GenTLSKeyPair` generates. -/
def AdminWrites (d : AdminConfig) (fs fs' : FileSys) : Prop :=
  (fileExists fs (deps.join d.rootDir deps.defaultAdminClients) = true ∨ d.autogen = false →
      fs' = fs) ∧
    ∀ p, p ≠ deps.join d.rootDir deps.defaultAdminClients →
      p ≠ deps.join d.rootDir "adminclient" ++ ".cert" →
      p ≠ deps.join d.rootDir "adminclient" ++ ".key" → fs'.entries p = fs.entries p

theorem adminWrites_refl (d : AdminConfig) (fs : FileSys) : AdminWrites deps d fs fs :=
  ⟨fun _ => rfl, fun _ _ _ _ => rfl⟩

/- `GenTLSKeyPair` writes only the two files it is given. -/
variable (hgen : ∀ fs₀ fs₁ cert key, deps.genTLSKeyPair fs₀ cert key = .ok fs₁ →
  ∀ p, p ≠ cert → p ≠ key → fs₁.entries p = fs₀.entries p)

include hgen in
theorem clientCACerts_writes {d : AdminConfig} {fs fs' : FileSys} {certs : Bytes}
    (h : clientCACerts deps errorText d fs = .ok (certs, fs')) : AdminWrites deps d fs fs' := by
  refine ⟨(clientCACerts_ok deps errorText h).2, fun p hclients hcert hkey => ?_⟩
  rcases clientCACerts_cases deps errorText h with
    ⟨-, -, rfl⟩ | ⟨-, -, fs₁, hgen₁, -, hwrite⟩ | ⟨-, -, -, rfl⟩
  · rfl
  · rw [writeFile_ok hwrite]
    simp only [FileSys.write, hclients, if_false]
    exact hgen _ _ _ _ hgen₁ p hcert hkey
  · rfl

include hgen in
theorem tlsConfig_writes {d : AdminConfig} {withTransportClientAuth : Bool}
    {fs fs' : FileSys} {config : Option TlsConfig}
    (h : tlsConfig deps errorText d withTransportClientAuth fs = .ok (config, fs')) :
    AdminWrites deps d fs fs' := by
  unfold tlsConfig at h
  split at h
  · cases h
    exact adminWrites_refl deps d fs
  split at h
  · cases h
    exact adminWrites_refl deps d fs
  split at h
  · cases h
  rename_i hcerts
  split at h
  · cases h
  cases h
  exact clientCACerts_writes deps errorText hgen hcerts

include hgen in
theorem adminListener_writes {d : AdminConfig} {host port : String} {wantTLS : Bool}
    {opts opts' : List ServerOpt} {fs fs' : FileSys} {addr : String}
    (h : adminListener deps errorText d host port wantTLS opts fs = .ok (addr, opts', fs')) :
    AdminWrites deps d fs fs' := by
  unfold adminListener at h
  dsimp only at h
  split at h
  · split at h
    · cases h
    · cases h
      exact adminWrites_refl deps d fs
  split at h
  · split at h
    · cases h
      exact adminWrites_refl deps d fs
    split at h
    · cases h
    rename_i hconfig
    cases h
    exact tlsConfig_writes deps errorText hgen hconfig
  · cases h
    exact adminWrites_refl deps d fs

/-- A built admin server: the target of its listen address, the listener, and the server info
option last. -/
theorem buildJRPCAdminServer_ok {d : AdminConfig} {fs fs' : FileSys} {srv : AdminServer}
    (h : buildJRPCAdminServer deps errorText d fs = .ok (srv, fs')) :
    ∃ host port wantTLS addr opts,
      adminListenTarget deps errorText d.listenAddress = .ok (host, port, wantTLS) ∧
      adminListener deps errorText d host port wantTLS
          ([.timeout 10] ++ if d.pass ≠ "" then [.pass d.pass] else []) fs =
        .ok (addr, opts, fs') ∧
      srv = ⟨addr, opts ++ [.serverInfo]⟩ := by
  unfold buildJRPCAdminServer at h
  cases htarget : adminListenTarget deps errorText d.listenAddress with
  | error p =>
    rw [htarget] at h
    cases h
  | ok target =>
    obtain ⟨host, port, wantTLS⟩ := target
    rw [htarget] at h
    dsimp only at h
    cases hlistener : adminListener deps errorText d host port wantTLS
        ([.timeout 10] ++ if d.pass ≠ "" then [.pass d.pass] else []) fs with
    | error p =>
      rw [hlistener] at h
      cases h
    | ok listener =>
      obtain ⟨addr, opts, fs₁⟩ := listener
      rw [hlistener] at h
      dsimp only at h
      cases hserver : deps.newServer addr (opts ++ [.serverInfo]) with
      | some e =>
        rw [hserver] at h
        cases h
      | none =>
        rw [hserver] at h
        cases h
        exact ⟨host, port, wantTLS, addr, opts, rfl, hlistener, rfl⟩

/-- On every path where the admin server is built with an admin key, over a TCP address whose
host is not loopback or under an `https` URL, and without `NoTLS`: the server listens on that host
and port, with TLS presenting the admin key. With a password it also asks for the password.
Without one its TLS requires and verifies client certificates, and trusts exactly the
certificates of the clients CA file as the file system holds it after the build, none when there
is no such file. -/
theorem buildJRPCAdminServer_exposed_tls {d : AdminConfig} {fs fs' : FileSys} {srv : AdminServer}
    (hbuild : buildJRPCAdminServer deps errorText d fs = .ok (srv, fs')) {host port : String}
    {wantTLS : Bool}
    (htarget : adminListenTarget deps errorText d.listenAddress = .ok (host, port, wantTLS))
    (htcp : isUnixSocketPath host = false)
    (hexposed : deps.resolveLoopback host ≠ .ok true ∨ wantTLS = true) (htls : d.noTLS = false)
    {adminKey : TlsCertificate} (hkey : d.adminKey = some adminKey) :
    srv.addr = joinHostPort host port ∧
      ∃ config : TlsConfig, .tls (some config) ∈ srv.opts ∧
        config.certificates = [adminKey] ∧ (d.pass ≠ "" → .pass d.pass ∈ srv.opts) ∧
        (d.pass = "" → config.clientAuth = .requireAndVerifyClientCert ∧
          config.clientCAs =
            let certs := fs'.contents (deps.join d.rootDir deps.defaultAdminClients)
            if certs.length > 0 then deps.pemCertificates certs else []) := by
  obtain ⟨host', port', wantTLS', addr, opts, htarget', hlistener, rfl⟩ :=
    buildJRPCAdminServer_ok deps errorText hbuild
  obtain ⟨rfl, rfl, rfl⟩ : host' = host ∧ port' = port ∧ wantTLS' = wantTLS := by
    simpa using htarget'.symm.trans htarget
  obtain ⟨rfl, config, hconfig, rfl⟩ :=
    adminListener_exposed deps errorText hlistener htcp hexposed htls
  by_cases hpass : d.pass = ""
  · rw [hpass, beq_self_eq_true] at hconfig
    obtain ⟨rfl, -⟩ := tlsConfig_clientAuth_ok deps errorText hkey hconfig
    exact ⟨rfl, ⟨[adminKey], .requireAndVerifyClientCert, _⟩,
      List.mem_append_left _ (List.mem_append_right _ (List.mem_singleton_self _)), rfl,
      fun h => absurd hpass h, fun _ => ⟨rfl, rfl⟩⟩
  · have hfalse : (d.pass == "") = false := by simpa using hpass
    rw [hfalse, tlsConfig_noClientAuth deps errorText hkey] at hconfig
    obtain ⟨rfl, -⟩ := Prod.mk.inj (Except.ok.inj hconfig)
    exact ⟨rfl, ⟨[adminKey], .noClientCert, []⟩,
      List.mem_append_left _ (List.mem_append_right _ (List.mem_singleton_self _)), rfl,
      fun _ => by simp [hpass], fun h => absurd h hpass⟩

include hgen in
/-- Building the admin server changes the file system only in autogen mode when there is no
clients CA file: an existing clients file is never rewritten, and no path is written but the
clients file and the client key pair `GenTLSKeyPair` generates, for a generator that writes only
its two files. -/
theorem buildJRPCAdminServer_file_writes {d : AdminConfig} {fs fs' : FileSys}
    {srv : AdminServer} (hbuild : buildJRPCAdminServer deps errorText d fs = .ok (srv, fs')) :
    (fileExists fs (deps.join d.rootDir deps.defaultAdminClients) = true ∨ d.autogen = false →
        fs' = fs) ∧
      ∀ p, p ≠ deps.join d.rootDir deps.defaultAdminClients →
        p ≠ deps.join d.rootDir "adminclient" ++ ".cert" →
        p ≠ deps.join d.rootDir "adminclient" ++ ".key" → fs'.entries p = fs.entries p := by
  obtain ⟨_, _, _, _, _, -, hlistener, -⟩ := buildJRPCAdminServer_ok deps errorText hbuild
  exact adminListener_writes deps errorText hgen hlistener

end Admin

/-- A node whose admin service listens on `10.0.0.5:8485`, which does not resolve to loopback,
with `filepath.Join` as concatenation with a slash, and a `GenTLSKeyPair` that writes the
certificate `[1]` and the key `[2]`; its PEM decoder reads each file as one certificate. -/
def exposedAdminDeps : AdminDeps where
  join dir name := dir ++ "/" ++ name
  defaultAdminClients := "clients.pem"
  fileFaults := ⟨fun _ => none, fun _ => none, fun _ => .msg "not a file"⟩
  genTLSKeyPair fs cert key := .ok ((fs.write cert [1]).write key [2])
  pemCertificates pem := [pem]
  splitHostPort _ := .ok ("10.0.0.5", "8485")
  urlParse _ := .error (.msg "not a URL")
  resolveLoopback _ := .ok false
  newServer _ _ := none

/-- An admin key, autogen mode, no password and TLS allowed. -/
def exposedAdmin : AdminConfig := ⟨"/root", some ⟨[[3]]⟩, true, "10.0.0.5:8485", "", false⟩

/-- A file system with nothing on it. -/
def emptyFileSys : FileSys := ⟨fun _ => none⟩

/-- The file system after the autogen mode writes the client key pair and the clients file. -/
def exposedFileSys : FileSys :=
  ((emptyFileSys.write "/root/adminclient.cert" [1]).write "/root/adminclient.key" [2]).write
    "/root/clients.pem" [1]

/-- The admin server built for `exposedAdmin`: mutual TLS trusting the generated certificate. -/
def exposedServer : AdminServer :=
  ⟨"10.0.0.5:8485",
    [.timeout 10, .tls (some ⟨[⟨[[3]]⟩], .requireAndVerifyClientCert, [[1]]⟩),
      .serverInfo]⟩

theorem exposedAdmin_build :
    buildJRPCAdminServer exposedAdminDeps (fun _ => "") exposedAdmin emptyFileSys =
      .ok (exposedServer, exposedFileSys) := rfl

/-- The admin server of `exposedAdmin` uses mutual TLS and trusts the certificate it generated. -/
theorem buildJRPCAdminServer_exposed_tls_exposedAdmin :
    exposedServer.addr = joinHostPort "10.0.0.5" "8485" ∧
      ∃ config : TlsConfig, .tls (some config) ∈ exposedServer.opts ∧
        config.certificates = [⟨[[3]]⟩] ∧
        (exposedAdmin.pass ≠ "" → .pass exposedAdmin.pass ∈ exposedServer.opts) ∧
        (exposedAdmin.pass = "" → config.clientAuth = .requireAndVerifyClientCert ∧
          config.clientCAs =
            let certs := exposedFileSys.contents
              (exposedAdminDeps.join exposedAdmin.rootDir exposedAdminDeps.defaultAdminClients)
            if certs.length > 0 then exposedAdminDeps.pemCertificates certs else []) :=
  buildJRPCAdminServer_exposed_tls exposedAdminDeps (fun _ => "") exposedAdmin_build rfl rfl
    (.inl (by simp [exposedAdminDeps])) rfl rfl

theorem exposedAdminDeps_genTLSKeyPair_writes :
    ∀ fs₀ fs₁ cert key, exposedAdminDeps.genTLSKeyPair fs₀ cert key = .ok fs₁ →
      ∀ p, p ≠ cert → p ≠ key → fs₁.entries p = fs₀.entries p := by
  intro fs₀ fs₁ cert key h p hcert hkey
  cases h
  simp [FileSys.write, hcert, hkey]

/-- Building the admin server of `exposedAdmin` writes only the clients file and the client key
pair. -/
theorem buildJRPCAdminServer_file_writes_exposedAdmin :
    (fileExists emptyFileSys
          (exposedAdminDeps.join exposedAdmin.rootDir exposedAdminDeps.defaultAdminClients) =
        true ∨ exposedAdmin.autogen = false → exposedFileSys = emptyFileSys) ∧
      ∀ p,
        p ≠ exposedAdminDeps.join exposedAdmin.rootDir exposedAdminDeps.defaultAdminClients →
        p ≠ exposedAdminDeps.join exposedAdmin.rootDir "adminclient" ++ ".cert" →
        p ≠ exposedAdminDeps.join exposedAdmin.rootDir "adminclient" ++ ".key" →
        exposedFileSys.entries p = emptyFileSys.entries p :=
  buildJRPCAdminServer_file_writes exposedAdminDeps (fun _ => "")
    exposedAdminDeps_genTLSKeyPair_writes exposedAdmin_build

end KwilDb
