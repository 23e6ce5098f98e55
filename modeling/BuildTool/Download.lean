import BuildTool.Archive.Unpack
import BuildTool.Digest.Checksum
import BuildTool.Files.Verbs
import BuildTool.Http.Date
import BuildTool.Settings
import BuildTool.Workspace

/-!
# Downloads

A download asks a server for an archive and unpacks it into a directory. The time of the
directory is that of the archive on the server, so that the next download can ask for it only
if it has changed. Nothing is written before the response and its checksum are known to be
right.

    fetch       what the server answers, without a change to the disk
    extract     the archive in a directory
    download    both, one after the other
-/

namespace BuildTool

inductive DownloadOutcome
  | extracted
  | notModified
  deriving DecidableEq, Repr

namespace Download

/-- The forms of archives, by the ends of their addresses. -/
inductive Form
  | plain
  | gzipped
  deriving DecidableEq, Repr

def formOf? (url : String) : Option Form :=
  if Text.endsWith ".tar.gz" url || Text.endsWith ".tgz" url then some .gzipped
  else if Text.endsWith ".tar" url then some .plain
  else none

def itemsOf (form : Form) (body : ByteArray) : List ArchiveItem :=
  match form with
  | .plain => ArchiveItem.read (.ofBytes body)
  | .gzipped => ArchiveItem.read (Gzip.unpack body)

/-- The request for an archive that is to go into a directory with modification time `since`. -/
def requestFor (userAgent : String) (since : Option Time) (url : Url) : Http.Request where
  path := url.request
  ifModifiedSince := since.map HttpDate.write
  userAgent := some (Http.headerText userAgent) |>.filter (· ≠ "")

def send (server : Http.Server) (userAgent : String) (since : Option Time) (address : String) :
    Except BuildError Http.Response × Http.Server :=
  match Url.read? address with
  | none => (.error (.network (.badRequest none)), server)
  | some url =>
    if !url.canBeSent then (.error (.network (.badRequest (some url.text))), server)
    else
      let request := requestFor userAgent since url
      let after := (server.answer url request).2
      match server.response? url request with
      | some response => (.ok response, after)
      | none => (.error (.network (.unreachable url.text)), after)

/-- The body has the checksum, if one is asked for. -/
def verify (address : String) (checksum : Option String) (body : ByteArray) :
    Except BuildError Unit :=
  match checksum with
  | none => .ok ()
  | some text =>
    match Checksum.parse? text with
    | none => .error (.command (.badChecksum text))
    | some c => if c.isMet body.toList then .ok () else .error (.checksumMismatch address)

/-- The outcome of a response: the archive to unpack, or nothing if it has not changed. -/
def accept (address : String) (checksum : Option String) (r : Http.Response) :
    Except BuildError (Option Http.Response) :=
  if r.isUnmodified then .ok none
  else if !r.isSuccess then
    .error (.network (.status address r.status (Http.reason? r.status)))
  else
    match verify address checksum r.body with
    | .ok () => .ok (some r)
    | .error e => .error e

/-- The time of an archive on the server. -/
def timeOf? (r : Http.Response) : Option Time :=
  match r.lastModified with
  | some text =>
    if text.toList.all fun c => c == '\t' || (32 ≤ c.toNat && c.toNat < 127) then
      HttpDate.read? text
    else none
  | none => none

/-- Unpacks an archive into a directory, which is made if need be and gets the time of the
archive in the end, where it can get it. -/
def extract (dir : String) (form : Form) (r : Http.Response) (d : Disk) :
    Except BuildError Unit × Disk :=
  if Disk.hasZero dir then (.error (.io dir .zeroInName), d)
  else
    match d.makeDirectories dir with
    | (some fault, d) => (.error (.file dir fault), d)
    | (none, d) =>
      match Disk.unpack (Text.octets dir) (itemsOf form r.body) d with
      | (.error e, d) => (.error e, d)
      | (.ok (), d) =>
        match timeOf? r with
        | some time => (.ok (), d.touch dir time)
        | none => (.ok (), d)

/-- Notes that the directory has not got the time of its archive, if it could not. -/
def noteTime (logger : Logger) (dir : String) (r : Http.Response) (w : Workspace) : Workspace :=
  match timeOf? r, w.disk.stat dir with
  | some _, .error fault =>
    w.note logger ("could not set modification time of " ++ dir ++ ": " ++ fault.message)
  | _, _ => w

@[simp] theorem noteTime_disk (logger : Logger) (dir : String) (r : Http.Response) (w : Workspace) :
    (noteTime logger dir r w).disk = w.disk := by
  unfold noteTime
  split <;> rfl

@[simp] theorem noteTime_server (logger : Logger) (dir : String) (r : Http.Response)
    (w : Workspace) : (noteTime logger dir r w).server = w.server := by
  unfold noteTime
  split <;> rfl

end Download

open Download in
/-- Downloads the archive at an address into a directory, unless the server says that it has
not changed since the directory was written. -/
def download (settings : HttpSettings) (logger : Logger) (dir address : String)
    (checksum : Option String) (w : Workspace) : Except BuildError DownloadOutcome × Workspace :=
  if !Http.isHeaderValue settings.userAgent then (.error (.network (.badRequest none)), w)
  else
    match formOf? address with
    | none => (.error (.unsupportedArchive address), w)
    | some form =>
      let w := w.note logger ("Downloading " ++ address)
      let (answer, server) :=
        send w.server settings.userAgent (w.disk.modifiedTime? dir) address
      let w := { w with server }
      match answer.bind (accept address checksum) with
      | .error e => (.error e, w)
      | .ok none =>
        (.ok .notModified, w.note logger (address ++ " unmodified, skipping download"))
      | .ok (some response) =>
        match extract dir form response w.disk with
        | (.error e, disk) => (.error e, w.withDisk disk)
        | (.ok (), disk) => (.ok .extracted, noteTime logger dir response (w.withDisk disk))

end BuildTool
