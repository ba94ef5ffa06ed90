import FontAccessors.Accessor.Expansion
import FontAccessors.Accessor.Meaning
import FontAccessors.Main
import FontAccessors.Proofs.Accessor.Expansion
import FontAccessors.Proofs.Module.Outcome
import FontAccessors.Proofs.Accessor.Outcome
import FontAccessors.Accessor.Function
import FontAccessors.Proofs.Accessor.Meaning
import FontAccessors.Proofs.Generator.Render
import FontAccessors.Proofs.CommandLine.Run
import FontAccessors.Proofs.Accessor.Bindings
import FontAccessors.Proofs.Module.Fragments
import FontAccessors.Proofs.Accessor.Wrapped
import FontAccessors.Proofs.Accessor.Printed
import FontAccessors.Proofs.Accessor.CratePath
import FontAccessors.Proofs.FileTree.Commute
import FontAccessors.Proofs.Manifest.Edits
import FontAccessors.Proofs.Manifest.FontNames
import FontAccessors.Proofs.Accessor.Names
import FontAccessors.Proofs.Font.Display
import FontAccessors.Proofs.Accessor.Parameters
import FontAccessors.Proofs.Text.SnakeCase
