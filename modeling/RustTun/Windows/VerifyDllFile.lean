import RustTun.Base.Call
import RustTun.Base.Scatter
import RustTun.Base.Triple
import RustTun.Base.Utf16
import RustTun.Error

/-!
# Checking the wintun library

Before the wintun library is used, `Device::new` looks at the file it is in.  It lets the system
load the library once to learn where it is (`getDllAbsolutePath`), has the signature of the file
verified (`verifyEmbeddedSignature`), and reads out of it who signed it (`getSignerName`).  So the
code in the file runs before anything is known about it, whether it passes or not (`Preloaded`);
what depends on the check is `libloading::Library::new`, which comes after it.

The system is a parameter: `Win32 κ` are the functions that are called, on a state `κ` of which
nothing is assumed.  What is called is recorded together with the answers (`SystemCall`), and the
results are about this record.  A call is `Good` if its answer is the one that is hoped for.
`check_apply` says that the file passes exactly if all answers were good, and what was asked then
(`Inspection`).
-/

namespace RustTun.Windows

open Scatter

/-! ## The system -/

/-- Handles and pointers; 0 is `NULL`. -/
abbrev Handle := Nat

/-- What is read through a pointer to the buffer: the units in front of the first NUL. -/
def wideStr (buf : List UInt16) : List UInt16 := buf.takeWhile (· ≠ 0)

/-- `units.encode_wide().chain(once(0)).collect()`, as it is read through its pointer. -/
def nulTerminated (units : List UInt16) : List UInt16 := wideStr (units ++ [0])

/-- `WTD_STATEACTION_VERIFY` and `WTD_STATEACTION_CLOSE`. -/
inductive StateAction where
  | verify
  | close
deriving DecidableEq, Repr

/-- `WINTRUST_DATA`, but for what is the same in every call: no user interface, no check of
revocations, and a file as the subject. -/
structure WintrustData where
  pcwszFilePath : List UInt16
  dwStateAction : StateAction
  hWVTStateData : Handle
deriving DecidableEq, Repr

/-- What `CryptQueryObject` finds in a file. -/
structure SignedFile where
  encoding : UInt32
  store : Handle
  msg : Handle
deriving DecidableEq, Repr

/-- The fields of `CMSG_SIGNER_INFO` that are copied into the `CERT_INFO` to look for. -/
structure SignerInfo where
  issuer : List UInt8
  serialNumber : List UInt8
deriving DecidableEq, Repr

/-- The functions of the system. -/
structure Win32 (κ : Type) where
  loadLibraryW : List UInt16 → κ → Handle × κ
  /-- `GetModuleFileNameW`: what it writes to a buffer of that length, and what it returns. -/
  getModuleFileNameW : Handle → Nat → κ → (List UInt16 × Nat) × κ
  freeLibrary : Handle → κ → κ
  /-- `WinVerifyTrust`: its status, and the state data that it leaves. -/
  winVerifyTrust : WintrustData → κ → (Int × Handle) × κ
  cryptQueryObject : List UInt16 → κ → Option SignedFile × κ
  /-- `CryptMsgGetParam` for the signer without a buffer, which tells how long it has to be. -/
  signerInfoSize : Handle → κ → Option Nat × κ
  /-- `CryptMsgGetParam` for the signer with a buffer of that length. -/
  signerInfo : Handle → Nat → κ → Option SignerInfo × κ
  certFindCertificateInStore : Handle → UInt32 → SignerInfo → κ → Handle × κ
  /-- `CertGetNameStringW` without a buffer, which tells how long it has to be. -/
  nameLength : Handle → κ → Nat × κ
  /-- `CertGetNameStringW` with a buffer of that length: what it writes, and what it returns. -/
  nameString : Handle → Nat → κ → (List UInt16 × Nat) × κ
  certFreeCertificateContext : Handle → κ → κ
  getLastError : κ → Errno
  /-- `size_of::<CMSG_SIGNER_INFO>()`. -/
  sizeOfSignerInfo : Nat

/-- A function that was called, with what it was given and what it answered. -/
inductive SystemCall where
  | loadLibraryW (file : List UInt16) (module : Handle)
  | getModuleFileNameW (module : Handle) (written : List UInt16) (len : Nat)
  | freeLibrary (module : Handle)
  | winVerifyTrust (data : WintrustData) (status : Int) (stateData : Handle)
  | cryptQueryObject (file : List UInt16) (answer : Option SignedFile)
  | signerInfoSize (msg : Handle) (answer : Option Nat)
  | signerInfo (msg : Handle) (size : Nat) (answer : Option SignerInfo)
  | certFindCertificateInStore (store : Handle) (encoding : UInt32) (info : SignerInfo)
      (context : Handle)
  | nameLength (context : Handle) (length : Nat)
  | nameString (context : Handle) (length : Nat) (written : List UInt16) (res : Nat)
  | certFreeCertificateContext (context : Handle)
  | /-- `libloading::Library::new`. -/ libraryNew (file : List UInt16)

/-- The system, and what was called of it, oldest first. -/
structure Host (κ : Type) where
  system : κ
  calls : List SystemCall

namespace Host

variable {κ α : Type}

/-- Call a function of the system. -/
def invoke (f : κ → α × κ) (event : α → SystemCall) : Call Error (Host κ) α := fun s ↦
  (.ok (f s.system).1, ⟨(f s.system).2, s.calls ++ [event (f s.system).1]⟩)

/-- Call a function of the system that answers nothing. -/
def invokeUnit (f : κ → κ) (event : SystemCall) : Call Error (Host κ) Unit :=
  invoke (fun k ↦ ((), f k)) fun _ ↦ event

end Host

variable {κ : Type} (W : Win32 κ)

/-- A buffer of zeros after something was written to its front. -/
def filled (length : Nat) (written : List UInt16) : List UInt16 :=
  overwrite written (List.replicate length 0)

/-- `return Err(io::Error::last_os_error())`. -/
def failLastOsError {α : Type} : Call Error (Host κ) α := fun s ↦
  (.error (.err (.io (.os (W.getLastError s.system)))), s)

/-- Return with the last error if there is nothing. -/
def orLastOsError {α : Type} : Option α → Call Error (Host κ) α
  | some a => pure a
  | none => failLastOsError W

/-- Return with the last error if the number is 0. -/
def nonzero (n : Nat) : Call Error (Host κ) Unit :=
  if n = 0 then failLastOsError W else pure ()

/-! ## Where the library is -/

/-- `get_dll_absolute_path`. -/
def getDllAbsolutePath (path : List UInt16) : Call Error (Host κ) (List Char) := do
  let wideFilename := nulTerminated path
  let lib ← Host.invoke (W.loadLibraryW wideFilename) (.loadLibraryW wideFilename)
  let (written, len) ← Host.invoke (W.getModuleFileNameW lib 1024)
    fun (written, len) ↦ .getModuleFileNameW lib written len
  Host.invokeUnit (W.freeLibrary lib) (.freeLibrary lib)
  nonzero W len
  -- `&buf[..len]`
  if 1024 < len then
    .panic
  else
    let units := (filled 1024 written).take len
    match Utf16.fromUtf16 units with
    | some path => pure path
    | none => .fail (.io (.new .other (String.ofList (Utf16.lossy units))))

/-! ## Whether it is signed -/

def TRUST_E_PROVIDER_UNKNOWN : Int := 0x800B0001 - 0x100000000
def TRUST_E_SUBJECT_FORM_UNKNOWN : Int := 0x800B0003 - 0x100000000
def TRUST_E_SUBJECT_NOT_TRUSTED : Int := 0x800B0004 - 0x100000000
def TRUST_E_NOSIGNATURE : Int := 0x800B0100 - 0x100000000
def TRUST_E_EXPLICIT_DISTRUST : Int := 0x800B0111 - 0x100000000
def CRYPT_E_SECURITY_SETTINGS : Int := 0x80092026 - 0x100000000

/-- What a status other than success is reported as. -/
def trustError (status : Int) (lastError : Errno) : IoError :=
  if status = TRUST_E_NOSIGNATURE then
    if lastError = TRUST_E_NOSIGNATURE ∨ lastError = TRUST_E_SUBJECT_FORM_UNKNOWN ∨
        lastError = TRUST_E_PROVIDER_UNKNOWN then
      .new .other "The file is not signed."
    else
      .new .other "An unknown error occurred trying to verify the signature of the file."
  else if status = TRUST_E_EXPLICIT_DISTRUST then
    .new .other "The signature is present, but specifically disallowed."
  else if status = TRUST_E_SUBJECT_NOT_TRUSTED then
    .new .other "The signature is present, but not trusted."
  else if status = CRYPT_E_SECURITY_SETTINGS then
    .new .other ("The hash representing the subject or the publisher wasn't explicitly trusted " ++
      "by the admin and admin policy has disabled user trust. No signature, publisher or " ++
      "timestamp errors.")
  else
    .os status

/-- `verify_embedded_signature`. -/
def verifyEmbeddedSignature (sourceFile : List Char) : Call Error (Host κ) Unit := do
  let data : WintrustData :=
    { pcwszFilePath := nulTerminated (Utf16.encode sourceFile)
      dwStateAction := .verify
      hWVTStateData := 0 }
  let (status, stateData) ← Host.invoke (W.winVerifyTrust data)
    fun (status, stateData) ↦ .winVerifyTrust data status stateData
  let host ← Call.get
  let data := { data with dwStateAction := .close, hWVTStateData := stateData }
  let _ ← Host.invoke (W.winVerifyTrust data)
    fun (status, stateData) ↦ .winVerifyTrust data status stateData
  if status = 0 then
    pure ()
  else
    .fail (.io (trustError status (W.getLastError host.system)))

/-! ## Who signed it -/

/-- `get_signer_name`. -/
def getSignerName (sourceFile : List Char) : Call Error (Host κ) (List Char) := do
  let file := nulTerminated (Utf16.encode sourceFile)
  let answer ← Host.invoke (W.cryptQueryObject file) (.cryptQueryObject file)
  let signed ← orLastOsError W answer
  let answer ← Host.invoke (W.signerInfoSize signed.msg) (.signerInfoSize signed.msg)
  let size ← orLastOsError W answer
  if size < W.sizeOfSignerInfo then
    .fail (.io (.new .invalidData "Invalid signer info size."))
  else
    let answer ← Host.invoke (W.signerInfo signed.msg size) (.signerInfo signed.msg size)
    let info ← orLastOsError W answer
    let context ← Host.invoke (W.certFindCertificateInStore signed.store signed.encoding info)
      (.certFindCertificateInStore signed.store signed.encoding info)
    nonzero W context
    let length ← Host.invoke (W.nameLength context) (.nameLength context)
    nonzero W length
    let (written, res) ← Host.invoke (W.nameString context length)
      fun (written, res) ↦ .nameString context length written res
    nonzero W res
    match Utf16.fromUtf16 ((filled length written).take (length - 1)) with
    | none => .fail (.io (.new .invalidData "Invalid UTF-16 string."))
    | some name =>
      Host.invokeUnit (W.certFreeCertificateContext context) (.certFreeCertificateContext context)
      pure name

/-! ## The check -/

/-- `WINTUN_PROVIDER`. -/
def WINTUN_PROVIDER : List Char := "WireGuard LLC".toList

/-- The first half of the `unsafe` block of `Device::new`. -/
def check (wintunFile : List UInt16) : Call Error (Host κ) Unit := do
  let absPath ← getDllAbsolutePath W wintunFile
  verifyEmbeddedSignature W absPath
  let signerName ← getSignerName W absPath
  if signerName ≠ WINTUN_PROVIDER then
    .fail (.string ("Signer \"" ++ String.ofList signerName ++ "\" not match \"" ++
      String.ofList WINTUN_PROVIDER ++ "\""))
  else
    pure ()

/-! ## The record -/

/-- The answer is the one that is hoped for. -/
def SystemCall.Good (sizeOfSignerInfo : Nat) : SystemCall → Prop
  | .getModuleFileNameW _ written len =>
    len ≠ 0 ∧ len ≤ 1024 ∧ ∃ path, (filled 1024 written).take len = Utf16.encode path
  | .winVerifyTrust data status _ => data.dwStateAction = .verify → status = 0
  | .cryptQueryObject _ answer => answer.isSome
  | .signerInfoSize _ answer => ∃ size ∈ answer, sizeOfSignerInfo ≤ size
  | .signerInfo _ _ answer => answer.isSome
  | .certFindCertificateInStore _ _ _ context => context ≠ 0
  | .nameLength _ length => length ≠ 0
  | .nameString _ length written res =>
    res ≠ 0 ∧ (filled length written).take (length - 1) = Utf16.encode WINTUN_PROVIDER
  | .loadLibraryW _ _ | .freeLibrary _ | .certFreeCertificateContext _ | .libraryNew _ => True

/-- What is asked about a file that passes. -/
structure Inspection where
  module : Handle
  written : List UInt16
  len : Nat
  stateData : Handle
  closeStatus : Int
  closeData : Handle
  signed : SignedFile
  size : Nat
  info : SignerInfo
  context : Handle
  length : Nat
  name : List UInt16
  res : Nat

namespace Inspection

/-- The file that the system says the library is in. -/
def path (i : Inspection) : List UInt16 := nulTerminated ((filled 1024 i.written).take i.len)

/-- The calls that are made to locate the library `file`. -/
def locating (i : Inspection) (file : List UInt16) : List SystemCall :=
  [.loadLibraryW (nulTerminated file) i.module,
    .getModuleFileNameW i.module i.written i.len,
    .freeLibrary i.module]

/-- The calls that are made to verify the signature of the file it is in. -/
def verifying (i : Inspection) : List SystemCall :=
  [.winVerifyTrust ⟨i.path, .verify, 0⟩ 0 i.stateData,
    .winVerifyTrust ⟨i.path, .close, i.stateData⟩ i.closeStatus i.closeData]

/-- The calls that are made to find out who signed it. -/
def naming (i : Inspection) : List SystemCall :=
  [.cryptQueryObject i.path (some i.signed),
    .signerInfoSize i.signed.msg (some i.size),
    .signerInfo i.signed.msg i.size (some i.info),
    .certFindCertificateInStore i.signed.store i.signed.encoding i.info i.context,
    .nameLength i.context i.length,
    .nameString i.context i.length i.name i.res,
    .certFreeCertificateContext i.context]

/-- All of them, in this order. -/
def calls (i : Inspection) (file : List UInt16) : List SystemCall :=
  i.locating file ++ i.verifying ++ i.naming

/-- The answers on which it depends whether all are good. -/
theorem good_iff {i : Inspection} {file : List UInt16} {n : Nat} :
    (∀ c ∈ i.calls file, c.Good n) ↔
      (i.len ≠ 0 ∧ i.len ≤ 1024 ∧
        ∃ path, (filled 1024 i.written).take i.len = Utf16.encode path) ∧
      n ≤ i.size ∧ i.context ≠ 0 ∧ i.length ≠ 0 ∧ i.res ≠ 0 ∧
        (filled i.length i.name).take (i.length - 1) = Utf16.encode WINTUN_PROVIDER := by
  simp [calls, locating, verifying, naming, SystemCall.Good]

end Inspection

/-- Since the record was `l`, there was an answer that is not good, and `Library::new` was not
called. -/
def Refused (l : List SystemCall) (s : Host κ) : Prop :=
  ∃ calls, s.calls = l ++ calls ∧ (∃ c ∈ calls, ¬ c.Good W.sizeOfSignerInfo) ∧
    ∀ file, .libraryNew file ∉ calls

variable {W} {l done : List SystemCall} {E : Host κ → Prop}

/-- What was refused later was refused. -/
theorem Refused.of_append {s : Host κ} (h : Refused W (l ++ done) s)
    (hdone : ∀ file, .libraryNew file ∉ done) : Refused W l s := by
  obtain ⟨calls, hcalls, ⟨c, hc, hbad⟩, hnone⟩ := h
  refine ⟨done ++ calls, by rw [hcalls, List.append_assoc], ⟨c, ?_, hbad⟩, fun file hfile ↦ ?_⟩
  · exact List.mem_append_right _ hc
  · rcases List.mem_append.1 hfile with hfile | hfile
    · exact hdone file hfile
    · exact hnone file hfile

/-- An answer is noted. -/
theorem triple_invoke {α : Type} (f : κ → α × κ) (event : α → SystemCall) :
    Call.Triple (fun s ↦ s.calls = l ++ done) (Host.invoke f event)
      (fun a s ↦ s.calls = l ++ (done ++ [event a])) E := by
  intro s hs
  show s.calls ++ [event _] = l ++ (done ++ [event _])
  rw [hs, List.append_assoc]

/-- The last answer is not good. -/
theorem refused_of_last {c : SystemCall} (hbad : ¬ c.Good W.sizeOfSignerInfo)
    (hnone : ∀ file, .libraryNew file ∉ done ++ [c]) (s : Host κ)
    (hs : s.calls = l ++ (done ++ [c])) : Refused W l s :=
  ⟨done ++ [c], hs, ⟨c, List.mem_append_right _ (List.mem_singleton_self c), hbad⟩, hnone⟩

variable {α β : Type} {Q : β → Host κ → Prop}

/-- A call that has to have an answer. -/
theorem triple_answer {f : κ → Option α × κ} {event : Option α → SystemCall}
    {rest : α → Call Error (Host κ) β}
    (hbad : ¬ (event none).Good W.sizeOfSignerInfo)
    (hnone : ∀ file, .libraryNew file ∉ done ++ [event none])
    (hrest : ∀ a, Call.Triple (fun s ↦ s.calls = l ++ (done ++ [event (some a)])) (rest a) Q
      (Refused W l)) :
    Call.Triple (fun s ↦ s.calls = l ++ done)
      (do let answer ← Host.invoke f event; let a ← orLastOsError W answer; rest a) Q
      (Refused W l) := by
  refine (triple_invoke f event).bind fun answer ↦ ?_
  cases answer with
  | none => exact refused_of_last hbad hnone
  | some a => exact hrest a

/-- If a number is 0, its call is not good. -/
theorem triple_nonzero {n : Nat} {c : SystemCall} {rest : Call Error (Host κ) β}
    (hbad : n = 0 → ¬ c.Good W.sizeOfSignerInfo)
    (hnone : ∀ file, .libraryNew file ∉ done ++ [c])
    (hrest : n ≠ 0 → Call.Triple (fun s ↦ s.calls = l ++ (done ++ [c])) rest Q (Refused W l)) :
    Call.Triple (fun s ↦ s.calls = l ++ (done ++ [c])) (do nonzero W n; rest) Q (Refused W l) := by
  by_cases hn : n = 0
  · have hfail : (do nonzero W n; rest) = failLastOsError W := by
      rw [nonzero, if_pos hn]
      rfl
    rw [hfail]
    exact refused_of_last (hbad hn) hnone
  · have hgo : (do nonzero W n; rest) = rest := by
      rw [nonzero, if_neg hn]
      rfl
    rw [hgo]
    exact hrest hn

/-- A call that is made with an empty record may be made with any. -/
theorem triple_of_start {x : Call Error (Host κ) β}
    (h : Call.Triple (fun s ↦ s.calls = l ++ []) x Q E) :
    Call.Triple (fun s ↦ s.calls = l) x Q E := by
  rw [List.append_nil] at h
  exact h

/-- The file is located. -/
theorem triple_getDllAbsolutePath (file : List UInt16) :
    Call.Triple (fun s ↦ s.calls = l) (getDllAbsolutePath W file)
      (fun path s ↦ ∃ lib written len, len ≠ 0 ∧ len ≤ 1024 ∧
        (filled 1024 written).take len = Utf16.encode path ∧
        s.calls = l ++ [.loadLibraryW (nulTerminated file) lib,
          .getModuleFileNameW lib written len, .freeLibrary lib])
      (Refused W l) := by
  refine triple_of_start <| (triple_invoke _ _).bind fun lib ↦ (triple_invoke _ _).bind fun x ↦ ?_
  obtain ⟨written, len⟩ := x
  refine (triple_invoke _ _).bind fun _ ↦ ?_
  have hrefused (hbad : ¬ (SystemCall.getModuleFileNameW lib written len).Good W.sizeOfSignerInfo)
      (s : Host κ) (hs : s.calls = l ++ [.loadLibraryW (nulTerminated file) lib,
        .getModuleFileNameW lib written len, .freeLibrary lib]) : Refused W l s :=
    ⟨_, hs, ⟨.getModuleFileNameW lib written len, by simp, hbad⟩, by simp⟩
  refine .bind (R := fun _ s ↦ len ≠ 0 ∧ s.calls = l ++ [.loadLibraryW (nulTerminated file) lib,
    .getModuleFileNameW lib written len, .freeLibrary lib]) ?_ fun _ ↦ .of_imp fun hlen ↦ ?_
  · rw [nonzero]
    split_ifs with hlen
    · exact hrefused fun hgood ↦ hgood.1 hlen
    · exact .pure fun s hs ↦ ⟨hlen, hs⟩
  split_ifs with hlong
  · exact .panic (hrefused fun hgood ↦ Nat.not_le.2 hlong hgood.2.1)
  · dsimp only
    split
    · rename_i path hpath
      exact .pure fun s hs ↦
        ⟨lib, written, len, hlen, Nat.not_lt.1 hlong, Utf16.fromUtf16_eq_some_iff.1 hpath, hs⟩
    · rename_i hpath
      refine .fail (hrefused fun hgood ↦ ?_)
      obtain ⟨path, hencode⟩ := hgood.2.2
      rw [Utf16.fromUtf16_eq_some_iff.2 hencode] at hpath
      cases hpath

/-- Its signature is verified, and what that left behind is released. -/
theorem triple_verifyEmbeddedSignature (sourceFile : List Char) :
    Call.Triple (fun s ↦ s.calls = l) (verifyEmbeddedSignature W sourceFile)
      (fun _ s ↦ ∃ stateData status stateData', s.calls = l ++
        [.winVerifyTrust ⟨nulTerminated (Utf16.encode sourceFile), .verify, 0⟩ 0 stateData,
          .winVerifyTrust ⟨nulTerminated (Utf16.encode sourceFile), .close, stateData⟩ status
            stateData'])
      (Refused W l) := by
  refine triple_of_start <| (triple_invoke _ _).bind fun x ↦ ?_
  obtain ⟨status, stateData⟩ := x
  refine Call.Triple.get.bind fun host ↦ (triple_invoke _ _).bind fun x ↦ ?_
  obtain ⟨status', stateData'⟩ := x
  split_ifs with hstatus
  · subst hstatus
    exact .pure fun s hs ↦ ⟨stateData, status', stateData', hs⟩
  · refine .fail fun s hs ↦ ⟨_, hs, ⟨_, List.mem_cons_self, fun hgood ↦ ?_⟩, by simp⟩
    exact hstatus (hgood rfl)

/-- Its signer is found out. -/
theorem triple_getSignerName (sourceFile : List Char) :
    Call.Triple (fun s ↦ s.calls = l) (getSignerName W sourceFile)
      (fun name s ↦ ∃ signed size info context length written res,
        W.sizeOfSignerInfo ≤ size ∧ context ≠ 0 ∧ length ≠ 0 ∧ res ≠ 0 ∧
        (filled length written).take (length - 1) = Utf16.encode name ∧
        s.calls = l ++ [.cryptQueryObject (nulTerminated (Utf16.encode sourceFile)) (some signed),
          .signerInfoSize signed.msg (some size),
          .signerInfo signed.msg size (some info),
          .certFindCertificateInStore signed.store signed.encoding info context,
          .nameLength context length,
          .nameString context length written res,
          .certFreeCertificateContext context])
      (Refused W l) := by
  refine triple_of_start <| triple_answer (nomatch ·) (by simp) fun signed ↦ ?_
  refine (triple_invoke _ _).bind fun answer ↦ ?_
  cases answer with
  | none => exact refused_of_last (by simp [SystemCall.Good]) (by simp)
  | some size =>
  show Call.Triple _ (if size < W.sizeOfSignerInfo then _ else _) _ _
  split_ifs with hsize
  · exact .fail (refused_of_last (by simp [SystemCall.Good, hsize]) (by simp))
  refine triple_answer (nomatch ·) (by simp) fun info ↦ ?_
  refine (triple_invoke _ _).bind fun context ↦ ?_
  refine triple_nonzero (fun hcontext hgood ↦ hgood hcontext) (by simp) fun hcontext ↦ ?_
  refine (triple_invoke _ _).bind fun length ↦ ?_
  refine triple_nonzero (fun hlength hgood ↦ hgood hlength) (by simp) fun hlength ↦ ?_
  refine (triple_invoke _ _).bind fun x ↦ ?_
  obtain ⟨written, res⟩ := x
  dsimp only
  refine triple_nonzero (fun hres hgood ↦ hgood.1 hres) (by simp) fun hres ↦ ?_
  split
  · rename_i hname
    refine .fail (refused_of_last (fun hgood ↦ ?_) (by simp))
    rw [Utf16.fromUtf16_eq_some_iff.2 hgood.2] at hname
    cases hname
  · rename_i name hname
    refine (triple_invoke _ _).bind fun _ ↦ .pure fun s hs ↦ ?_
    exact ⟨signed, size, info, context, length, written, res, Nat.not_lt.1 hsize, hcontext, hlength,
      hres, Utf16.fromUtf16_eq_some_iff.1 hname, hs⟩

/-- Part of the check, behind another that is recorded. -/
theorem triple_after {α : Type} {x : Call Error (Host κ) α} {R : α → Host κ → Prop}
    {rest : α → Call Error (Host κ) β} (hdone : ∀ file, .libraryNew file ∉ done)
    (hx : Call.Triple (fun s ↦ s.calls = l ++ done) x R (Refused W (l ++ done)))
    (hrest : ∀ a, Call.Triple (R a) (rest a) Q (Refused W l)) :
    Call.Triple (fun s ↦ s.calls = l ++ done) (x >>= rest) Q (Refused W l) :=
  .bind (hx.weaken (fun _ h ↦ h) (fun _ _ h ↦ h) fun _ h ↦ h.of_append hdone) hrest

/-- **A file passes the check only if all answers were good**, and then all that there is to ask
was asked. -/
theorem triple_check (file : List UInt16) :
    Call.Triple (fun s ↦ s.calls = l) (check W file)
      (fun _ s ↦ ∃ i : Inspection, s.calls = l ++ i.calls file ∧
        ∀ c ∈ i.calls file, c.Good W.sizeOfSignerInfo)
      (Refused W l) := by
  refine (triple_getDllAbsolutePath file).bind fun path ↦ ?_
  refine .of_exists fun lib ↦ .of_exists fun written ↦ .of_exists fun len ↦
    .of_imp fun hlen ↦ .of_imp fun hle ↦ .of_imp fun hpath ↦ ?_
  refine triple_after (by simp) (triple_verifyEmbeddedSignature path) fun _ ↦ ?_
  refine .of_exists fun stateData ↦ .of_exists fun status ↦ .of_exists fun stateData' ↦ ?_
  simp only [List.append_assoc]
  refine triple_after (by simp) (triple_getSignerName path) fun name ↦ ?_
  refine .of_exists fun signed ↦ .of_exists fun size ↦ .of_exists fun info ↦
    .of_exists fun context ↦ .of_exists fun length ↦ .of_exists fun units ↦
    .of_exists fun res ↦ .of_imp fun hsize ↦ .of_imp fun hcontext ↦ .of_imp fun hlength ↦
    .of_imp fun hres ↦ .of_imp fun hname ↦ ?_
  let i : Inspection :=
    { module := lib, written, len, stateData, closeStatus := status, closeData := stateData'
      signed, size, info, context, length, name := units, res }
  refine .weaken (P := fun s ↦ s.calls = l ++ i.calls file) ?_ (fun s hs ↦ ?_) (fun _ _ h ↦ h)
    fun _ h ↦ h
  · split_ifs with hsigner
    · refine .fail fun s hs ↦ ⟨i.calls file, hs, ?_, ?_⟩
      · refine ⟨.nameString context length units res, ?_, fun hgood ↦ hsigner ?_⟩
        · simp [Inspection.calls, Inspection.naming, i]
        · exact Utf16.encode_injective (hname.symm.trans hgood.2)
      · simp [Inspection.calls, Inspection.locating, Inspection.verifying, Inspection.naming]
    · refine .pure fun s hs ↦ ⟨i, hs, Inspection.good_iff.2 ?_⟩
      rw [not_not.1 hsigner] at hname
      exact ⟨⟨hlen, hle, path, hpath⟩, hsize, hcontext, hlength, hres, hname⟩
  · rw [hs, ← hpath, List.append_assoc]
    rfl

/-! ## The file that is checked -/

/-- The first that was called since the record was `l` is `LoadLibraryW`, on the file. -/
def Preloaded (l : List SystemCall) (file : List UInt16) (s : Host κ) : Prop :=
  ∃ module, l ++ [.loadLibraryW (nulTerminated file) module] <+: s.calls

variable {file : List UInt16}

theorem preserves_invoke {α : Type} (f : κ → α × κ) (event : α → SystemCall) :
    (Host.invoke f event : Call Error (Host κ) α).Preserves (Preloaded l file) :=
  fun _ hs ↦ hs.imp fun _ hcalls ↦ hcalls.trans (List.prefix_append _ _)

theorem preserves_orLastOsError {α : Type} (answer : Option α) :
    (orLastOsError W answer).Preserves (Preloaded l file) := by
  cases answer with
  | none => exact fun _ hs ↦ hs
  | some a => exact .pure a

theorem preserves_nonzero (n : Nat) : (nonzero W n).Preserves (Preloaded l file) := by
  rw [nonzero]
  split_ifs
  · exact fun _ hs ↦ hs
  · exact .pure ()

theorem preserves_verifyEmbeddedSignature (sourceFile : List Char) :
    (verifyEmbeddedSignature W sourceFile).Preserves (Preloaded l file) := by
  refine (preserves_invoke _ _).bind fun x ↦ Call.Preserves.get.bind fun host ↦
    (preserves_invoke _ _).bind fun y ↦ ?_
  split_ifs
  · exact .pure ()
  · exact .fail _

theorem preserves_getSignerName (sourceFile : List Char) :
    (getSignerName W sourceFile).Preserves (Preloaded l file) := by
  refine (preserves_invoke _ _).bind fun _ ↦ (preserves_orLastOsError _).bind fun signed ↦
    (preserves_invoke _ _).bind fun _ ↦ (preserves_orLastOsError _).bind fun size ↦ ?_
  split_ifs
  · exact .fail _
  · refine (preserves_invoke _ _).bind fun _ ↦ (preserves_orLastOsError _).bind fun info ↦
      (preserves_invoke _ _).bind fun context ↦ (preserves_nonzero _).bind fun _ ↦
      (preserves_invoke _ _).bind fun length ↦ (preserves_nonzero _).bind fun _ ↦
      (preserves_invoke _ _).bind fun x ↦ (preserves_nonzero _).bind fun _ ↦ ?_
    split
    · exact .fail _
    · exact (preserves_invoke _ _).bind fun _ ↦ .pure _

/-- **The file is loaded before it is checked**, however the check ends. -/
theorem triple_check_preloads (file : List UInt16) :
    Call.Triple (fun s ↦ s.calls = l) (check W file) (fun _ ↦ Preloaded l file)
      (Preloaded l file) := by
  have hload : Call.Triple (fun s ↦ s.calls = l)
      (Host.invoke (W.loadLibraryW (nulTerminated file)) (.loadLibraryW (nulTerminated file)))
      (fun _ ↦ Preloaded l file) (Preloaded l file) := by
    rintro s rfl
    exact ⟨_, List.prefix_rfl⟩
  have hlocate : Call.Triple (fun s ↦ s.calls = l) (getDllAbsolutePath W file)
      (fun _ ↦ Preloaded l file) (Preloaded l file) := by
    refine hload.bind fun lib ↦ .of_preserves ?_ fun _ ht ↦ ht
    refine (preserves_invoke _ _).bind fun x ↦ (preserves_invoke _ _).bind fun _ ↦
      (preserves_nonzero _).bind fun _ ↦ ?_
    split_ifs
    · exact .panic
    · dsimp only
      split
      · exact .pure _
      · exact .fail _
  refine hlocate.bind fun path ↦ .of_preserves ?_ fun _ ht ↦ ht
  refine (preserves_verifyEmbeddedSignature _).bind fun _ ↦
    (preserves_getSignerName _).bind fun name ↦ ?_
  split_ifs
  · exact .fail _
  · exact .pure ()

end RustTun.Windows
