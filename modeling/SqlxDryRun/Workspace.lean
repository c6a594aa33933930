import SqlxDryRun.Disk

/-!
# Workspaces

A directory is a workspace if it holds one of the signature files. The workspace of a file is the
nearest one at or above it, where "above" is read off the written path.
-/

namespace SqlxDryRun.Workspace

/-- The files that mark the root of a workspace. -/
def signatureFiles : List String :=
  ["workflow_settings.yaml", "dataform.json"]

/-- Whether a directory is the root of a workspace. -/
def isRoot (d : Disk) (directory : Path) : Bool :=
  signatureFiles.any fun name => d.exists? (directory.child name)

/-- The nearest workspace at or above a path. -/
def rootOf? (d : Disk) (p : Path) : Option Path :=
  p.ancestors.find? (isRoot d)

end SqlxDryRun.Workspace
