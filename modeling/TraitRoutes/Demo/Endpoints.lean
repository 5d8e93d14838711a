import TraitRoutes.Controller.Basic

/-!
# The endpoints of the demo

Three services: the sample service with every source that a parameter can come
from, the user service under a prefix of its own, and the category service, which
stays out of the documentation.
-/

namespace TraitRoutes.Demo

/-- An operation of the sample service. -/
inductive SampleOperation where
  | getWelcomeMessage | getItem | createItem | updateItem | deleteItem | getList | uploadItemImage
deriving DecidableEq, Repr

/-- An operation of the user service. -/
inductive UserOperation where
  | getUser | getUsers | createUser | updateUser | deleteUser
deriving DecidableEq, Repr

/-- An operation of the category service. -/
inductive CategoryOperation where
  | getCategoryTree | getCategoryById | createCategory | updateCategory | deleteCategory
  | getCategoryProductCount | updateCategorySort
deriving DecidableEq, Repr

/-- An operation of one of the services. -/
inductive Operation where
  | sample (operation : SampleOperation)
  | user (operation : UserOperation)
  | category (operation : CategoryOperation)
deriving DecidableEq, Repr

/-- A parameter that has to be there. -/
def needed (name : String) (binding : Binding) : ParameterMeta := ⟨name, binding, false, none⟩

/-- A parameter that may be left out. -/
def omittable (name : String) (binding : Binding) (default : Option String) : ParameterMeta :=
  ⟨name, binding, true, default⟩

/-- The endpoint of an operation of the sample service. -/
def SampleOperation.endpoint : SampleOperation → EndpointMeta
  | getWelcomeMessage => ⟨"get_welcome_message", .get, "/api/sample/get-welcome-message", []⟩
  | getItem =>
    ⟨"get_item_async", .get, "/api/sample/get-item/\x7bid\x7d",
      [needed "id" .route, needed "keyword" .query]⟩
  | createItem => ⟨"create_item_async", .post, "/api/sample/create-item", [needed "model" .body]⟩
  | updateItem =>
    ⟨"update_item_async", .put, "/api/sample/update-item/\x7bid\x7d",
      [needed "id" .route, needed "model" .body]⟩
  | deleteItem =>
    ⟨"delete_item_async", .delete, "/api/sample/delete-item/\x7bid\x7d",
      [needed "id" .route, omittable "force" .query (some "false")]⟩
  | getList =>
    ⟨"get_list_async", .get, "/api/sample/get-list",
      [omittable "page_index" .query (some "1"), omittable "page_size" .query (some "10")]⟩
  | uploadItemImage =>
    ⟨"upload_item_image", .post, "/api/sample/upload-item-image/\x7bitem_id\x7d",
      [needed "item_id" .route, needed "image" .form]⟩

/-- The endpoint of an operation of the user service. -/
def UserOperation.endpoint : UserOperation → EndpointMeta
  | getUser =>
    ⟨"get_user_async", .get, "/api/user/test/get-user/\x7bid\x7d", [needed "id" .route]⟩
  | getUsers =>
    ⟨"get_users_async", .get, "/api/user/test/get-users", [omittable "name" .query none]⟩
  | createUser => ⟨"create_user_async", .post, "/api/user/test/create-user", [needed "dto" .body]⟩
  | updateUser =>
    ⟨"update_user_async", .put, "/api/user/test/update-user/\x7bid\x7d",
      [needed "id" .route, needed "dto" .body]⟩
  | deleteUser =>
    ⟨"delete_user_async", .delete, "/api/user/test/delete-user/\x7bid\x7d", [needed "id" .route]⟩

/-- The endpoint of an operation of the category service. -/
def CategoryOperation.endpoint : CategoryOperation → EndpointMeta
  | getCategoryTree =>
    ⟨"get_category_tree_async", .get, "/api/categories/get-category-tree", []⟩
  | getCategoryById =>
    ⟨"get_category_by_id_async", .get, "/api/categories/get-category-by-id/\x7bid\x7d",
      [needed "id" .route]⟩
  | createCategory =>
    ⟨"create_category_async", .post, "/api/categories/create-category", [needed "dto" .body]⟩
  | updateCategory =>
    ⟨"update_category_async", .put, "/api/categories/update-category/\x7bid\x7d",
      [needed "id" .route, needed "dto" .body]⟩
  | deleteCategory =>
    ⟨"delete_category_async", .delete, "/api/categories/delete-category/\x7bid\x7d",
      [needed "id" .route]⟩
  | getCategoryProductCount =>
    ⟨"get_category_product_count_async", .get,
      "/api/categories/get-category-product-count/\x7bid\x7d", [needed "id" .route]⟩
  | updateCategorySort =>
    ⟨"update_category_sort_async", .put, "/api/categories/update-category-sort/\x7bid\x7d",
      [needed "id" .route, needed "sort_order" .query]⟩

/-- The endpoint of an operation. -/
def Operation.endpoint : Operation → EndpointMeta
  | sample op => op.endpoint
  | user op => op.endpoint
  | category op => op.endpoint

/-- A controller of the demo. -/
structure DemoController where
  routePrefix : String
  visibility : Visibility
  operations : List Operation

namespace DemoController

/-- The endpoints of a controller, in the order of declaration. -/
def endpoints (c : DemoController) : List EndpointMeta := c.operations.map Operation.endpoint

/-- The controller of the sample service. -/
def sample : DemoController :=
  ⟨"/api/sample", { hidden := false, groupName := some "Sample Service" },
    [.sample .getWelcomeMessage, .sample .getItem, .sample .createItem, .sample .updateItem,
      .sample .deleteItem, .sample .getList, .sample .uploadItemImage]⟩

/-- The controller of the user service. -/
def user : DemoController :=
  ⟨"/api/user/test", {},
    [.user .getUser, .user .getUsers, .user .createUser, .user .updateUser, .user .deleteUser]⟩

/-- The controller of the category service. -/
def category : DemoController :=
  ⟨"/api/categories", { hidden := true, groupName := some "Category Service" },
    [.category .getCategoryTree, .category .getCategoryById, .category .createCategory,
      .category .updateCategory, .category .deleteCategory, .category .getCategoryProductCount,
      .category .updateCategorySort]⟩

/-- All controllers. -/
def all : List DemoController := [sample, user, category]

end DemoController

/-- The endpoints of all controllers that are documented. -/
def documentedEndpoints : List EndpointMeta :=
  (DemoController.all.filter fun c => !c.visibility.hidden).flatMap DemoController.endpoints

end TraitRoutes.Demo
