import GotechDesk.Table
import GotechDesk.Clipboard.PasteFiles

set_option autoImplicit false

namespace GotechDesk.Clipboard

open FileTransfer (Style Component)

def fuseRootId : Nat := 1
def maxNameLen : Nat := 255

structure InodeAttributes where
  inode : Nat
  size : Nat
  lastModified : Int
  lastMetadataChanged : Int
  creationTime : Int
  kind : FileType
  perm : Nat

-- Node number k of a tree has inode k + 1, and stands for entry k - 1 of the peer's list.
structure FuseNode where
  connId : Int32
  index : Nat
  parent : Option Nat
  name : Name
  attributes : InodeAttributes
  children : List Nat

def InodeAttributes.fromDescription (inode : Nat) (desc : FileDescription) : InodeAttributes :=
  ⟨inode, desc.size, desc.lastModified, desc.lastMetadataChanged, desc.creationTime, desc.kind, desc.perm⟩

def InodeAttributes.newRoot (now : Int) : InodeAttributes := ⟨fuseRootId, 0, now, now, now, .directory, permRwx⟩

def FuseNode.fromDescription (inode : Nat) (desc : FileDescription) : FuseNode :=
  ⟨desc.connId, inode - 2, none, desc.name, .fromDescription inode desc, []⟩

def FuseNode.newRoot (now : Int) : FuseNode := ⟨0, 0, none, ['/'], .newRoot now, []⟩

def FuseNode.addChild (inode : Nat) (node : FuseNode) : FuseNode := { node with children := node.children ++ [inode] }

-- The tree so far, and the inodes of the directories in it. Paths are equal when their
-- components are.
structure TreeBuild where
  tree : List FuseNode
  subRootMap : List (List Component × Nat)

def TreeBuild.start (now : Int) : TreeBuild :=
  ⟨[.newRoot now], Table.insert (Table.insert [] [.rootDir] fuseRootId) [] fuseRootId⟩

def TreeBuild.parentInode (s : TreeBuild) (name : Name) : Nat :=
  match FileTransfer.parent (Style.unix.components name) with
  | some directory => (Table.get s.subRootMap directory).getD fuseRootId
  | none => fuseRootId

def TreeBuild.add (s : TreeBuild) (file : FileDescription) : Except CliprdrError TreeBuild :=
  let inode := s.tree.length + fuseRootId
  let linked := s.tree.modify (s.parentInode file.name - 1) (FuseNode.addChild inode)
  match fileName file.name with
  | none => .error (.fileError file.name ("invalid file name " ++ String.ofList file.name))
  | some baseName =>
      .ok
        { tree := linked ++ [{ FuseNode.fromDescription inode { file with name := baseName } with parent := some (s.parentInode file.name) }]
          subRootMap :=
            if file.kind = .directory then Table.insert s.subRootMap (Style.unix.components file.name) inode else s.subRootMap }

def TreeBuild.addAll : TreeBuild → List FileDescription → Except CliprdrError TreeBuild
  | s, [] => .ok s
  | s, file :: rest =>
      match s.add file with
      | .error error => .error error
      | .ok next => next.addAll rest

def buildTree (now : Int) (files : List FileDescription) : Except CliprdrError (List FuseNode) :=
  ((TreeBuild.start now).addAll files).map TreeBuild.tree

structure FuseServer where
  generation : Nat
  files : List FuseNode

def FuseServer.loadFileList (now : Int) (server : FuseServer) (files : List FileDescription) : Except CliprdrError Unit × FuseServer :=
  match buildTree now files with
  | .error error => (.error error, server)
  | .ok tree => (.ok (), { files := tree, generation := (server.generation + 1) % 2 ^ 64 })

def FuseServer.listRoot (server : FuseServer) : List Name :=
  (server.files.head?.map FuseNode.children).getD [] |>.filterMap (fun inode => (server.files[inode - 1]?).map FuseNode.name)

inductive Errno where
  | enametoolong
  | enoent
  | enotdir
deriving DecidableEq, Repr

def osString (name : Name) : List UInt8 := name.flatMap String.utf8EncodeChar

-- The kernel names children by bytes; `none` is the panic of an inode with no entry.
def findChild (entries : List FuseNode) (name : List UInt8) : List Nat → Option (Except Errno Nat)
  | [] => some (.error .enoent)
  | inode :: rest =>
      match entries[inode - 1]? with
      | none => none
      | some child => if osString child.name = name then some (.ok child.attributes.inode) else findChild entries name rest

def FuseServer.lookup (server : FuseServer) (parent : Nat) (name : List UInt8) : Option (Except Errno Nat) :=
  if maxNameLen < name.length then some (.error .enametoolong)
  else
    match server.files[parent - 1]? with
    | none => some (.error .enoent)
    | some entry =>
        if entry.attributes.kind ≠ .directory then some (.error .enotdir) else findChild server.files name entry.children

end GotechDesk.Clipboard
