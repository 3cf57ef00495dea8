import QueryDescriptor.Main
import QueryDescriptor.Proofs.Selection.Run
import QueryDescriptor.Proofs.Selection.Forest
import QueryDescriptor.Proofs.Selection.Preorder
import QueryDescriptor.Proofs.Selection.Account
import QueryDescriptor.Proofs.Accessor.Words
import QueryDescriptor.Proofs.Selection.Path
import QueryDescriptor.Proofs.Descriptor.Compound
import QueryDescriptor.Proofs.Heading.Written
import QueryDescriptor.Proofs.Descriptor.Tree
import QueryDescriptor.Proofs.Text.Layout
import QueryDescriptor.Proofs.Selection.Layout
import QueryDescriptor.Proofs.Descriptor.Layout
import QueryDescriptor.Proofs.Accessor.Access
import QueryDescriptor.Proofs.Selection.Reorder
import QueryDescriptor.Proofs.Descriptor.Order
import QueryDescriptor.Proofs.Files.Locate
import QueryDescriptor.Proofs.Files.Write
import QueryDescriptor.Proofs.Report.Files
import QueryDescriptor.Proofs.Selection.Continue
import QueryDescriptor.Proofs.Descriptor.Continue
import QueryDescriptor.Proofs.Heading.Declared
import QueryDescriptor.Proofs.Describe.Stages
import QueryDescriptor.Proofs.Describe.Untouched
import QueryDescriptor.Proofs.Describe.Skip
import QueryDescriptor.Proofs.Accessor.Greedy
import QueryDescriptor.Proofs.Descriptor.Distinct
import QueryDescriptor.Proofs.Descriptor.Keyword
import QueryDescriptor.Proofs.Report.Printed
import QueryDescriptor.Proofs.Accessor.Variants
import QueryDescriptor.Proofs.Heading.Opening
import QueryDescriptor.Proofs.Heading.Spacing
import QueryDescriptor.Proofs.Descriptor.Accepted
import QueryDescriptor.Proofs.Report.Shared
import QueryDescriptor.Proofs.Text.Replace
import QueryDescriptor.Proofs.Release.Armor
import QueryDescriptor.Proofs.Release.Artifacts
import QueryDescriptor.Proofs.Selection.Invariant
import QueryDescriptor.Proofs.Text.Bytes
import QueryDescriptor.Proofs.Files.Components
import QueryDescriptor.Proofs.Files.Walk
import QueryDescriptor.Proofs.Discovery.Search
