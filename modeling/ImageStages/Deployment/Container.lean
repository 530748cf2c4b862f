import ImageStages.Document.Access
import ImageStages.Stage.Record

namespace ImageStages.Deployment

/-- A web server of a container without privileges stays in the foreground and
keeps its process file where it may write. -/
def webServerOptions (path root listen : Document) : Fields :=
  options [
    ("path", path),
    ("config", .record [
      ("listen", listen),
      ("root", root),
      ("daemon", .bool false),
      ("pid", .text "/tmp/nginx.pid")])]

def modeOptions (path mode recursive : Document) : Except Mishap Fields := do
  let key ← path.asKey
  return options [
    ("items", .object [(key, .record [("mode", mode), ("recursive", recursive)])])]

def treeOptions (repository readOnly : Document) : Fields :=
  options [
    ("repo", repository),
    ("config", .record [("sysroot", .record [
      ("readonly", readOnly),
      ("bootloader", .text "none")])])]

/-- The directory of the EFI partition is open to nobody but its owner. -/
def efiDirectoryOptions : Fields :=
  options [
    ("paths", .list [.record [("path", .text "/boot/efi"), ("mode", .int 0o700)]])]

end ImageStages.Deployment
