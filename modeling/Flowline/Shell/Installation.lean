import Flowline.Shell.Program

/-!
# What is installed

The directories, programs and devices that are there before anything is run.
-/

namespace Flowline.Shell.Files

def standardDirectories : List String := ["/", "/dev", "/dev/fd", "/etc", "/home", "/media", "/mnt", "/opt", "/proc", "/root",
  "/run", "/srv", "/sys", "/tmp", "/usr", "/usr/bin", "/usr/lib", "/usr/local", "/usr/local/bin", "/usr/local/sbin",
  "/usr/sbin", "/usr/share", "/var", "/var/log", "/var/tmp"]

/-- Directories that have moved below `/usr`. -/
def movedDirectories : List (String × String) := [("/bin", "usr/bin"), ("/lib", "usr/lib"), ("/sbin", "usr/sbin")]

def devices : List (String × Content) := [("/dev/null", .device .null), ("/dev/zero", .device .zero),
  ("/dev/full", .device .full), ("/dev/random", .device .random), ("/dev/urandom", .device .urandom),
  ("/dev/tty", .device .terminal),
  ("/dev/stdin", .descriptor 0), ("/dev/stdout", .descriptor 1), ("/dev/stderr", .descriptor 2)] ++
  (List.range 10).map fun n => ("/dev/fd/" ++ toString n, .descriptor n)

/-- The files of the system. -/
def installed : Files :=
  let time := World.epoch
  let add (fs : Files) (path : String) (content : Content) (mode : Nat) : Files :=
    fs.insert path ⟨content, mode, time, 0⟩
  let fs := standardDirectories.foldl (fun fs d =>
    add fs d .directory (if d = "/tmp" || d = "/var/tmp" then 0o1777 else 0o755)) .empty
  let fs := movedDirectories.foldl (fun fs (path, target) => add fs path (.link target) 0o777) fs
  let fs := devices.foldl (fun fs (path, content) => add fs path content 0o666) fs
  programNames.foldl (fun fs name => add fs ("/usr/bin/" ++ name) (.program name) 0o755) fs

end Flowline.Shell.Files
